import MonitorKeys.Shell.Builtin.Directory
import MonitorKeys.Shell.Builtin.Jobs
import MonitorKeys.Shell.Builtin.Reading
import MonitorKeys.Shell.Builtin.Variables
import MonitorKeys.Shell.Launch
import MonitorKeys.Shell.Printing
import MonitorKeys.Shell.Redirect
import MonitorKeys.Shell.Test

/-!
# Running commands

What a shell does for each kind of command.  A command inside another one is run by recursion, and
what runs in a function, in a text or in another process is handed to an `Interpreter`.

The argument `tested` says that a command only decides what is done next, so that its failure is none
of the shell, not even where the shell is told to end at a failure; and `last` says that the process
has nothing to do after the command, so that a program can take its place.
-/

namespace MonitorKeys.Shell.Execute

/-! ## Texts -/

/-- How deep commands can be nested in a text. -/
def nesting : Nat := 1000

/-- Run the lines of a text one by one; `false` where there is no command in them.  The numbers are a
bound on the lines, and the answer so far. -/
def lines (interp : Interpreter) (tested : Bool) : Nat → Bool → Source → Run Bool
  | 0, found, _ => return found
  | n + 1, found, source => do
    if source.isAtEnd then return found
    let p ← Run.process
    let source :=
      { source with aliases := p.aliases, documents := [], nextDocument := p.documents.length }
    match source.nextLine nesting with
    | .ok command rest =>
      Run.onProcess fun p => { p with documents := rest.documents ++ p.documents }
      match command with
      | some c =>
        interp (.command c tested)
        lines interp tested n true rest
      | none => lines interp tested n found rest
    | .error mistake _ =>
      Run.onProcess fun p => { p with line := mistake.line }
      Run.fail mistake.text

/-- Run a text; without any command it succeeds. -/
def text (interp : Interpreter) (s : String) (tested : Bool) : Run Unit := do
  unless ← lines interp tested (s.length + 1) false { rest := s.toList } do Run.setStatus 0

/-- Run the commands for the signals that have come. -/
def runTraps (interp : Interpreter) : Run Unit := do
  let p ← Run.process
  unless p.caught.isEmpty do
    Run.onProcess fun p => { p with caught := [] }
    for signal in p.caught do
      match p.traps.lookup signal with
      | some action =>
        interp (.text action false)
        Run.setStatus p.status
      | none => pure ()

/-! ## Builtins that run other commands or end them -/

/-- The number of loops that `break` and `continue` mean. -/
def loopCount (arguments : List String) : Run Nat := do
  match arguments.head? with
  | none => return 1
  | some s =>
    let n ← Builtin.number s
    if n == 0 then Run.fail ("Illegal number: " ++ s)
    return min n (← Run.process).loops

/-- Set the status that `exit` and `return` are given. -/
def givenStatus (before : Nat) (arguments : List String) : Run Unit := do
  match arguments.head? with
  | none => Run.setStatus before
  | some s => Run.setStatus (← Builtin.number s)

/-- `exec`: the program takes the place of the shell. -/
def replace (interp : Interpreter) (arguments : List String) : Run Unit := do
  match arguments with
  | [] => return
  | name :: _ =>
    let reason ←
      if name.contains '/' then Launch.execute interp name arguments
      else
        match ← Lookup.program name with
        | .error denied => pure (some (if denied then FileError.denied else .missing))
        | .ok path => Launch.execute interp path arguments
    match reason with
    | none => throw .leave
    | some e =>
      let (status, words) := Launch.failure e
      Run.complain (name ++ ": " ++ words)
      Run.setStatus status
      throw .leave

/-- The text of the file that `.` runs. -/
def fileText (name : String) : Run String := do
  let path ←
    if name.contains '/' then pure name
    else
      match ← Lookup.inDirectories name false (((← Run.value? "PATH").getD "").splitOn ":") with
      | .ok found => pure found
      | .error _ => Run.fail (name ++ ": not found")
  match ← Run.openPath path .read with
  | .error _ => Run.fail ("cannot open " ++ path ++ ": No such file")
  | .ok file =>
    match (← Run.system).files[file]? with
    | none => return ""
    | some opened =>
      match ← Run.readFrom file opened none with
      | .ok s => return s
      | .error _ => return ""

/-- `.`: a file is run by the shell itself. -/
def source (interp : Interpreter) (arguments : List String) (tested : Bool) : Run Unit := do
  match arguments.head? with
  | none => return
  | some name =>
    let s ← fileText name
    Run.onProcess fun p => { p with builtin := some name }
    try
      interp (.text s tested)
    catch
      | .returns => return
      | stop => throw stop

/-! ## Plain builtins -/

/-- What `printf` prints; what is wrong is said at once. -/
def printf : Builtin := fun arguments => do
  let (_, words) ← Builtin.options "" arguments
  match words with
  | [] => Run.fail "usage: printf format [arg ...]"
  | format :: arguments =>
    let p := Printing.printf .builtin format.toList (arguments.length + 1) { arguments }
    p.warnings.forM Run.complain
    Run.setStatus (if p.fatal then 2 else if p.warnings.isEmpty then 0 else 1)
    return p.out

/-- `alias`. -/
def aliases : Builtin := fun arguments => do
  if arguments.isEmpty then
    let all := (← Run.process).aliases
    return String.join ((all.mergeSort fun a b => decide (a.1 ≤ b.1)).map fun (name, text) =>
      name ++ "=" ++ Builtin.quoted text ++ "\n")
  let mut out := ""
  for word in arguments do
    match Builtin.assigned word, (← Run.process).aliases.lookup word with
    | (name, some text), _ =>
      Run.onProcess fun p =>
        { p with aliases := (name, text) :: p.aliases.filter (·.1 != name) }
    | (name, none), some text => out := out ++ name ++ "=" ++ Builtin.quoted text ++ "\n"
    | (name, none), none =>
      Run.warn ("alias: " ++ name ++ " not found\n")
      Run.setStatus 1
  return out

/-- `unalias`. -/
def unalias : Builtin := fun arguments => do
  let (found, names) ← Builtin.options "a" arguments
  unless found.isEmpty do Run.onProcess fun p => { p with aliases := [] }
  for name in names do
    if ((← Run.process).aliases.lookup name).isNone then
      Run.warn ("unalias: " ++ name ++ " not found\n")
      Run.setStatus 1
    Run.onProcess fun p => { p with aliases := p.aliases.filter (·.1 != name) }
  return ""

/-- A test, which prints nothing. -/
def test (name : String) : Builtin := fun arguments => do
  Test.run name arguments
  return ""

/-- The builtins that only print and change the state. -/
def plainBuiltin? (interp : Interpreter) (name : String) : Option Builtin :=
  match name with
  | ":" | "true" => some fun _ => return ""
  | "false" => some fun _ => do
    Run.setStatus 1
    return ""
  | "[" | "test" => some (test name)
  | "alias" => some aliases
  | "bg" | "fg" => some Builtin.resume
  | "cd" | "chdir" => some Builtin.changeDirectory
  | "echo" => some fun arguments => return Printing.echo arguments
  | "export" =>
    some (Builtin.giving "export" (·.exported) fun v => { v with exported := true })
  | "getopts" => some Builtin.getopts
  | "hash" => some Builtin.hash
  | "jobs" => some Builtin.jobs
  | "kill" => some Builtin.kill
  | "local" => some Builtin.hide
  | "printf" => some printf
  | "pwd" => some Builtin.printDirectory
  | "read" => some Builtin.read
  | "readonly" => some (Builtin.giving "readonly" (·.fixed) fun v => { v with fixed := true })
  | "set" => some Builtin.set
  | "shift" => some Builtin.shift
  | "times" => some Builtin.times
  | "trap" => some Builtin.trap
  | "type" => some fun arguments => Lookup.describe false arguments
  | "ulimit" => some Builtin.ulimit
  | "umask" => some Builtin.umask
  | "unalias" => some unalias
  | "unset" => some Builtin.unset
  | "wait" => some (Builtin.wait interp)
  | _ => none

/-- Print what a builtin has to say. -/
def flush (name out : String) : Run Unit := do
  match ← Run.write 1 out with
  | none => return
  | some _ =>
    if name == "printf" && (← Run.status) == 2 then return
    Run.complain (name ++ ": I/O error")
    Run.setStatus ((← Run.status) ||| 1)

/-! ## Simple commands -/

/-- A command whose words have been expanded. -/
structure Invocation where
  words : List String
  /-- Whether functions and the special meaning of some builtins count. -/
  direct : Bool := true
  /-- Whether the usual search path is taken. -/
  usual : Bool := false
  /-- What is to be said about the words instead of running them: whether in one word. -/
  describes : Option Bool := none

/-- Take the builtin `command` off the front of words. -/
def unwrap (words : List String) : Run Invocation := do
  match words with
  | "command" :: rest =>
    let saved := (← Run.process).builtin
    Run.onProcess fun p => { p with builtin := some "command" }
    let (found, rest) ← Builtin.options "pvV" rest
    Run.onProcess fun p => { p with builtin := saved }
    let describes :=
      if found.any (·.1 == 'v') then some true else if found.any (·.1 == 'V') then some false
      else none
    return { words := rest, direct := false, usual := found.any (·.1 == 'p'), describes }
  | words => return { words }

/-- The fields of the words of a command; assignments behind the builtins that take these are not
split. -/
def commandFields (interp : Interpreter) :
    Option String → List Word → List String → Run (List String)
  | _, [], fields => return fields
  | name, word :: rest, fields => do
    let takesAssignments := ["alias", "export", "local", "readonly"].contains (name.getD "")
    let found ←
      match if takesAssignments then Reader.assignment? word else none with
      | some (variable_, value) => do
        pure [variable_ ++ "=" ++ (← Expand.value interp value)]
      | none => Expand.fields interp [word]
    let name := if name.isNone || name == some "command" then found.head? <|> name else name
    commandFields interp name rest (fields ++ found)

/-- Show a command before it is run, where that is asked for.  `errors` is the open file that the
error output led to before the command. -/
def traceCommand (errors : Option (Nat × OpenFile)) (assignments : List (String × String))
    (words : List String) : Run Unit := do
  if ← Run.isSet 'x' then
    let shown := assignments.map (fun (name, value) => name ++ "=" ++ value) ++ words
    let front := (← Run.value? "PS4").getD "+ "
    match errors with
    | some (n, file) =>
      let _ ← Run.writeTo n file (front ++ " ".intercalate shown ++ "\n")
    | none => return

/-- Give variables values one after the other; the answer lists these. -/
def assignAll (interp : Interpreter) (exports : Bool) :
    List (String × Word) → Run (List (String × String))
  | [] => return []
  | (name, word) :: rest => do
    let value ← Expand.value interp word
    Run.assign name value
    if exports then
      match ← Run.lookVariable name with
      | some v => Run.putVariable { v with exported := true }
      | none => pure ()
    return (name, value) :: (← assignAll interp exports rest)

/-- Give variables back what they were. -/
def restoreVariables (saved : List Variable) : Run Unit :=
  saved.forM fun v =>
    match v.value, v.exported || v.fixed with
    | none, false =>
      Run.onProcess fun p => { p with bindings := p.bindings.filter (·.name != v.name) }
    | _, _ => Run.putVariable v

/-- The variables of some names as they are. -/
def savedVariables (names : List String) : Run (List Variable) :=
  names.mapM fun name => return (← Run.lookVariable name).getD { name, value := none }

/-- Call a function. -/
def call (interp : Interpreter) (tested : Bool) (body : Command) (arguments : List String) :
    Run Unit := do
  let p ← Run.process
  Run.onProcess fun q =>
    { q with
      positional := arguments, loops := 0, hidden := [] :: q.hidden, nextOption := 1
      optionPlace := 0 }
  let restore : Run Unit := do
    let inner := ((← Run.process).hidden.head?).getD []
    Run.onProcess fun q =>
      { q with
        positional := p.positional, loops := p.loops, hidden := p.hidden
        nextOption := p.nextOption, optionPlace := p.optionPlace }
    restoreVariables inner
  try
    interp (.command body tested)
    restore
  catch
    | .returns => restore
    | stop =>
      restore
      throw stop

/-- Run a builtin; what it does to the flow of commands goes on. -/
def runBuiltin (interp : Interpreter) (tested : Bool) (name : String) (arguments : List String) :
    Run Unit := do
  let before ← Run.status
  unless name == "eval" || name == "." do Run.setStatus 0
  match name with
  | "eval" => interp (.text (" ".intercalate arguments) tested)
  | "." => source interp arguments tested
  | "exec" => replace interp arguments
  | "exit" =>
    givenStatus before arguments
    throw .leave
  | "return" =>
    givenStatus before arguments
    throw .returns
  | "break" =>
    let n ← loopCount arguments
    if 0 < n && 0 < (← Run.process).loops then throw (.breaks n)
  | "continue" =>
    let n ← loopCount arguments
    if 0 < n && 0 < (← Run.process).loops then throw (.continues n)
  | _ =>
    match plainBuiltin? interp name with
    | some builtin => flush name (← builtin arguments)
    | none => return

/-- Run a builtin under its name.  A failure ends the shell only where the builtin is a special
one. -/
def builtin (interp : Interpreter) (tested special : Bool) (name : String)
    (arguments : List String) : Run Unit := do
  let saved := (← Run.process).builtin
  let restore : Run Unit := Run.onProcess fun p => { p with builtin := saved }
  Run.onProcess fun p => { p with builtin := some name }
  try
    runBuiltin interp tested name arguments
    restore
  catch
    | .failure =>
      restore
      if special then throw .failure
    | stop =>
      restore
      throw stop

/-- Run a program in the process, or say why that is not possible. -/
def become (interp : Interpreter) (path : String) (words : List String) : Run Unit := do
  match ← Launch.execute interp path words with
  | none => return
  | some e =>
    let (status, reason) := Launch.failure e
    Run.complain (words.headD "" ++ ": " ++ reason)
    Run.setStatus status

/-- Run a program and wait for it. -/
def program (interp : Interpreter) (last : Bool) (path : String) (words : List String) :
    Run Unit := do
  if last && (← Run.process).traps.all (·.2.isEmpty) then
    become interp path words
    throw .leave
  let ended ← Run.spawn (become interp path words)
  Builtin.reportSignal ended
  Run.setStatus (statusOf ended)

/-- Run a command whose words have been expanded. -/
def invoke (interp : Interpreter) (tested last : Bool) (meaning : Meaning) (special : Bool)
    (inv : Invocation) : Run Unit := do
  let path := if inv.usual then some Lookup.usualPath else none
  match inv.words, inv.describes with
  | [], _ => Run.setStatus 0
  | words, some brief =>
    flush "command" (← Lookup.describe brief (words.take 1) path)
  | name :: arguments, none =>
    match meaning with
    | .function body => call interp tested body arguments
    | .builtin => builtin interp tested special name arguments
    | .program found => program interp last found inv.words
    | .nothing denied =>
      Run.complain (name ++ ": " ++ (← Lookup.failureText denied))
      Run.setStatus 127

/-- Run a simple command. -/
def simple (interp : Interpreter) (tested last : Bool) (assignments : List (String × Word))
    (words : List Word) (redirections : List Redirection) : Run Unit := do
  Run.onProcess fun p => { p with outputStatus := 0 }
  let fields ← commandFields interp none words []
  let inv ← unwrap fields
  let errors ← Run.openFile? 2
  match fields with
  | [] =>
    Redirect.during interp redirections fun opened => do
      if opened then
        let values ← assignAll interp false assignments
        traceCommand errors values []
        Run.setStatus (← Run.process).outputStatus
      else Run.setStatus 2
      return false
  | _ =>
    let name := inv.words.headD ""
    let path := if inv.usual then some Lookup.usualPath else none
    let meaning ← Lookup.meaning name inv.direct path
    let isSpecial :=
      inv.direct && specialBuiltins.contains name && (meaning matches .builtin)
    Redirect.during interp redirections fun opened => do
      if !opened then
        Run.setStatus 2
        if isSpecial then throw .failure
        return false
      if isSpecial then
        let values ← assignAll interp (name == "exec" && 1 < inv.words.length) assignments
        traceCommand errors values fields
        invoke interp tested last meaning true inv
      else
        let saved ← savedVariables (assignments.map (·.1))
        let values ← assignAll interp true assignments
        traceCommand errors values fields
        try
          invoke interp tested last meaning false inv
          restoreVariables saved
        catch stop =>
          restoreVariables saved
          throw stop
      return name == "exec" && (meaning matches .builtin)

/-! ## Other processes -/

/-- Run what there is to be run at the end of a shell; only that can change its status. -/
def endTrap (interp : Interpreter) : Run Unit := do
  let p ← Run.process
  match p.traps.lookup 0 with
  | none => return
  | some action =>
    Run.onProcess fun p => { p with traps := p.traps.filter (·.1 != 0) }
    try
      interp (.text action false)
      Run.setStatus p.status
    catch
      | .killed signal => throw (.killed signal)
      | .expired => throw .expired
      | _ => return

/-- Run an action that is all that a shell does. -/
def whole (interp : Interpreter) (action : Run Unit) : Run Unit := do
  try
    action
    runTraps interp
  catch
    | .killed signal => throw (.killed signal)
    | .expired => throw .expired
    | _ => pure ()
  endTrap interp

/-- Run a command in a shell of its own and wait for it. -/
def subshell (action : Run Unit) : Run Unit := do
  let ended ← Run.spawn action
  Builtin.reportSignal ended
  Run.setStatus (statusOf ended)

/-- Run the commands of a pipeline; `input` is the open file that the next one reads from, if that
is not the input of the shell. -/
def pipeline (interp : Interpreter) (tested : Bool) :
    List Command → Option Nat → List ExitStatus → Run (List ExitStatus)
  | [], _, ended => return ended.reverse
  | c :: rest, input, ended => do
    let child (action : Run Unit) : Run ExitStatus :=
      match input with
      | some file => Run.withDescriptor 0 (some file) (Run.spawn action)
      | none => Run.spawn action
    let body := interp (.child c tested)
    match rest with
    | [] => return ((← child body) :: ended).reverse
    | _ =>
      let pipe ← Run.addPipe
      let writer ← Run.addFile { target := .pipe pipe, writable := true }
      let reader ← Run.addFile { target := .pipe pipe, readable := true }
      let status ← child (Run.withDescriptor 1 (some writer) body)
      pipeline interp tested rest (some reader) (status :: ended)

/-- Whether a command begins by sleeping. -/
def sleepsFirst : Command → Bool
  | .simple _ _ ([.chars "sleep" _] :: _) _ => true
  | .andThen c _ | .orElse c _ | .sequence c _ | .negate c | .redirected _ c _
  | .subshell _ c _ => sleepsFirst c
  | _ => false

/-- Start a command that is not waited for; it gets nothing to read. -/
def background (interp : Interpreter) (c : Command) : Run Unit := do
  let null ← Run.openPath "/dev/null" .read
  let process := (← Run.system).lastProcess + 1
  let ended ←
    if sleepsFirst c then do
      Run.onSystem fun y => { y with lastProcess := process }
      pure none
    else
      some <$> Run.withDescriptor 0 null.toOption (Run.spawn (interp (.child c false)))
  Run.onProcess fun p =>
    { p with lastJob := some process, jobs := p.jobs ++ [{ process, ended, body := c }] }
  Run.setStatus 0

/-! ## Loops -/

/-- How a round of a loop ends. -/
inductive Round where
  | done
  | leaves
  deriving DecidableEq, Repr

/-- Run the commands of a round; what reaches beyond the loop goes on. -/
def round (action : Run Bool) : Run Round := do
  try
    let goesOn ← action
    return if goesOn then .done else .leaves
  catch
    | .breaks n => if n ≤ 1 then return .leaves else throw (.breaks (n - 1))
    | .continues n => if n ≤ 1 then return .done else throw (.continues (n - 1))
    | stop => throw stop

/-- Run a body as long as a condition holds; the status is that of the body.  The numbers are a bound
on the rounds and the status of the last one. -/
def rounds (condition : Run Bool) (body : Run Unit) : Nat → Nat → Run Unit
  | 0, _ => throw .expired
  | n + 1, last => do
    let one : Run Bool := do
      if ← condition then
        body
        return true
      Run.setStatus last
      return false
    match ← round one with
    | .done => rounds condition body n (← Run.status)
    | .leaves => return

/-- Run a round for each of some values, as long as they go on. -/
def roundsOver (action : String → Run Unit) : List String → Run Unit
  | [] => return
  | value :: rest => do
    let one : Run Bool := do
      action value
      return true
    match ← round one with
    | .done => roundsOver action rest
    | .leaves => return

/-- Run an action within one more loop. -/
def inLoop (action : Run Unit) : Run Unit := do
  let outer := (← Run.process).loops
  let restore : Run Unit := Run.onProcess fun p => { p with loops := outer }
  Run.onProcess fun p => { p with loops := outer + 1 }
  try
    action
    restore
  catch stop =>
    restore
    throw stop

/-! ## Commands -/

/-- Note where a command stands in the text. -/
def setLine (line : Nat) : Run Unit :=
  Run.onProcess fun p => { p with line }

/-- The first case with a pattern that a text matches. -/
def chosen (interp : Interpreter) (subject : List Char) :
    List (List Word × Option Command) → Run (Option Command)
  | [] => return none
  | (patterns, body) :: rest => do
    for pattern in patterns do
      if Glob.fits (← Expand.glyphs interp pattern) subject then return body
    chosen interp subject rest

/-- Where a shell is told so, end it after a failure. -/
def checkFailure (tested : Bool) : Run Unit := do
  if !tested && (← Run.isSet 'e') && (← Run.status) != 0 then throw .leave

/-- Run a command. -/
def perform (interp : Interpreter) (tested last : Bool) (c : Command) : Run Unit := do
  if ← Run.isSet 'n' then return
  Run.spend 1
  runTraps interp
  match c with
  | .simple line assignments words redirections =>
    setLine line
    simple interp tested last assignments words redirections
    checkFailure tested
  | .pipeline commands =>
    let ended ← pipeline interp tested commands none []
    ended.forM Builtin.reportSignal
    Run.setStatus (statusOf (ended.getLast?.getD (.code 0)))
    checkFailure tested
  | .negate c =>
    perform interp true false c
    Run.setStatus (if (← Run.status) == 0 then 1 else 0)
  | .andThen first second =>
    perform interp true false first
    if (← Run.status) == 0 then perform interp tested last second
  | .orElse first second =>
    perform interp true false first
    if (← Run.status) != 0 then perform interp tested last second
  | .sequence first second =>
    perform interp tested false first
    perform interp tested last second
  | .background c => background interp c
  | .subshell line body redirections =>
    setLine line
    subshell (whole interp (Redirect.during interp redirections fun opened => do
      if opened then interp (.command body tested) else Run.setStatus 2
      return true))
    checkFailure tested
  | .redirected line body redirections =>
    setLine line
    Redirect.during interp redirections fun opened => do
      if opened then perform interp tested false body else Run.setStatus 2
      return false
  | .branch condition yes no =>
    perform interp true false condition
    if (← Run.status) == 0 then perform interp tested last yes
    else
      match no with
      | some other => perform interp tested last other
      | none => Run.setStatus 0
  | .loop untilTrue condition body =>
    let holds : Run Bool := do
      perform interp true false condition
      return ((← Run.status) == 0) != untilTrue
    inLoop (rounds holds (perform interp tested false body) ((← Run.system).steps + 1) 0)
  | .each line name words body =>
    setLine line
    let values ← Expand.fields interp words
    Run.setStatus 0
    inLoop (roundsOver
      (fun value => do
        Run.assign name value
        perform interp tested false body)
      values)
  | .choose line subject cases =>
    setLine line
    let s ← Expand.text interp subject
    match ← chosen interp s.toList cases with
    | some body => interp (.command body tested)
    | none => Run.setStatus 0
  | .define _ name body =>
    Run.onProcess fun p =>
      { p with functions := (name, body) :: p.functions.filter (·.1 != name) }
    Run.setStatus 0
  runTraps interp

end MonitorKeys.Shell.Execute
