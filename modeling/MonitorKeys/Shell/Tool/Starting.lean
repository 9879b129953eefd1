import MonitorKeys.Shell.Tool.Saying

/-!
# Programs that start others

`env`, `nohup`, `nice`, `setsid` and `stdbuf` become the program that their arguments name;
`timeout` waits for it, and stops it when its time is over.
-/

namespace MonitorKeys.Shell.Tool.Starting

/-- Become the program of some words; `message` says that this is not possible. -/
def becomeProgram (interp : Interpreter) (words : List String)
    (message : FileError → String) : Run Unit := do
  let failing (e : FileError) : Run Unit :=
    note (message e) (if e == .missing then 127 else 126)
  match ← Launch.find (words.headD "") with
  | .error e => failing e
  | .ok path =>
    match ← Launch.execute interp path words with
    | some e => failing e
    | none => return

/-- The message of most programs that cannot start another one. -/
def cannotRun (words : List String) (e : FileError) : String :=
  "failed to run command " ++ quote (words.headD "") ++ ": " ++ e.text

/-- A program that only becomes another one, after its own options. -/
def passing (spec : Options) (message : List String → FileError → String) (status : Nat)
    (missing : String) : Tool := fun interp words => do
  let given ← { spec with anywhere := false, misuse := status : Options }.read words.tail
  if given.operands.isEmpty then misuse missing status
  becomeProgram interp given.operands (message given.operands)

/-- `nohup`. -/
def nohup : Tool :=
  passing {} cannotRun 125 "missing operand"

/-- `setsid`. -/
def setsid : Tool :=
  passing { flags := "cfw", long := [("ctty", 'c'), ("fork", 'f'), ("wait", 'w')] }
    (fun words e => "failed to execute " ++ words.headD "" ++ ": " ++ e.text) 1
    "no command specified"

/-- `nice`. -/
def nice : Tool := fun interp words => do
  let given ← Options.read
    { values := "n", maybes := "0123456789", long := [("adjustment", 'n')], anywhere := false
      misuse := 125 } words.tail
  let values := given.options.map fun (c, value) =>
    if c == 'n' then value else String.singleton c ++ value
  if let some value := values.getLast? then
    if (Raw.int? value).isNone then die ("invalid adjustment " ++ quote value) 125
  if given.operands.isEmpty then
    unless values.isEmpty do misuse "a command must be given with an adjustment" 125
    print "0\n"
  else
    becomeProgram interp given.operands fun e => quote (given.operands.headD "") ++ ": " ++ e.text

/-- `stdbuf`. -/
def stdbuf : Tool := fun interp words => do
  let given ← Options.read
    { values := "ioe", long := [("input", 'i'), ("output", 'o'), ("error", 'e')]
      anywhere := false, misuse := 125 } words.tail
  for (_, value) in given.options do
    unless value == "L" || (Raw.nat? value).isSome do
      die ("invalid mode " ++ quote value) 125
  if given.operands.isEmpty then misuse "missing operand" 125
  if given.options.isEmpty then misuse "you must specify a buffering mode option" 125
  becomeProgram interp given.operands (cannotRun given.operands)

/-! ## Variables -/

/-- The variables of the process in the order in which they came, one in a line. -/
def environmentLines (ending : String) : Run String := do
  let all ← Run.environment
  return String.join (all.reverse.map fun (name, value) => name ++ "=" ++ value ++ ending)

/-- The words of a text, which can be quoted.  The first argument bounds the number of steps. -/
def splitWords : Nat → List Char → Option (List Char) → List String → List String
  | 0, _, _, out => out.reverse
  | n + 1, cs, word, out =>
    let add (more : List Char) : Option (List Char) := some (more.reverse ++ word.getD [])
    let finished := word.elim out fun w => String.ofList w.reverse :: out
    match cs with
    | [] => finished.reverse
    | c :: rest =>
      if c == ' ' || c == '\t' || c == '\n' then splitWords n rest none finished
      else if c == '\'' || c == '"' then
        let inner := rest.takeWhile (· != c)
        splitWords n (rest.drop (inner.length + 1)) (add inner) out
      else if c == '\\' then splitWords n (rest.drop 1) (add (rest.take 1)) out
      else splitWords n rest (add [c]) out

/-- `env`. -/
def env : Tool := fun interp words => do
  let arguments :=
    match words.tail with
    | "-S" :: text :: rest => splitWords (text.length + 1) text.toList none [] ++ rest
    | "-" :: rest => "-i" :: rest
    | first :: rest =>
      if first.startsWith "-S" && first.length != 2 then
        splitWords first.length (first.drop 2).toString.toList none [] ++ rest
      else first :: rest
    | [] => []
  let given ← Options.read
    { flags := "i0v", values := "uCS", anywhere := false, misuse := 125
      long := [("ignore-environment", 'i'), ("null", '0'), ("unset", 'u'), ("chdir", 'C'),
        ("debug", 'v'), ("split-string", 'S')] } arguments
  if given.has 'i' then Run.onProcess fun p => { p with bindings := [] }
  for name in given.all 'u' do
    if name.isEmpty || name.contains '=' then
      die ("cannot unset " ++ quote name ++ ": " ++ FileError.text .invalid) 125
    Run.onProcess fun p => { p with bindings := p.bindings.filter (·.name != name) }
  let isAssignment (w : String) : Bool := w.contains '='
  let operands :=
    match given.operands with
    | "-" :: rest => rest
    | ops => ops
  if given.operands.head? == some "-" then Run.onProcess fun p => { p with bindings := [] }
  for word in operands.takeWhile isAssignment do
    let name := String.ofList (word.toList.takeWhile (· != '='))
    Run.putVariable
      { name, value := some (word.drop (name.length + 1)).toString, exported := true }
  let command := operands.dropWhile isAssignment
  if command.isEmpty then
    if given.has 'C' then misuse "must specify command with --chdir (-C)" 125
    print (← environmentLines (if given.has '0' then "\x00" else "\n")) 125
  else
    if given.has '0' then misuse "cannot specify --null (-0) with command" 125
    if let some directory := given.last? 'C' then
      let wrong {α : Type} (e : FileError) : Run α :=
        die ("cannot change directory to " ++ quote directory ++ ": " ++ e.text) 125
      match ← Run.resolve directory with
      | .error e => wrong e
      | .ok place =>
        match ← Run.node? directory with
        | some (.directory _) => Run.onProcess fun p => { p with directory := place.path }
        | some _ => wrong .notDirectory
        | none => wrong .missing
    becomeProgram interp command fun e => quote (command.headD "") ++ ": " ++ e.text

/-- `printenv`. -/
def printenv : Tool := fun _ words => do
  let given ← Options.read
    { flags := "0", long := [("null", '0')], anywhere := false, misuse := 2 } words.tail
  let ending := if given.has '0' then "\x00" else "\n"
  if given.operands.isEmpty then print (← environmentLines ending) 2
  else
    let all ← Run.environment
    for name in given.operands do
      match all.lookup name with
      | some value => print (value ++ ending) 2
      | none => Run.setStatus 1

/-! ## Limits of time -/

/-- How many commands are run before the time of an action is over, at most. -/
def stepsWithin : Nat := 1000000

/-- Run an action that is stopped after some milliseconds; the answer is `none` then. -/
def within {α : Type} (milliseconds : Nat) (action : Run α) : Run (Option α) := do
  let y ← Run.system
  let stop := y.clock + milliseconds
  let outer := y.deadline
  if outer.any (· ≤ stop) then return some (← action)
  let reserve := y.steps - stepsWithin
  Run.onSystem fun y => { y with deadline := some stop, steps := min y.steps stepsWithin }
  try
    let a ← action
    Run.onSystem fun y => { y with deadline := outer, steps := y.steps + reserve }
    return some a
  catch
    | .expired =>
      Run.onSystem fun y =>
        { y with deadline := outer, clock := max stop y.clock, steps := y.steps + reserve }
      return none
    | other =>
      Run.onSystem fun y => { y with deadline := outer, steps := y.steps + reserve }
      throw other

/-- `timeout`. -/
def timeout : Tool := fun interp words => do
  let given ← Options.read
    { flags := "pfv", values := "ks", anywhere := false, misuse := 125
      long := [("preserve-status", 'p'), ("foreground", 'f'), ("kill-after", 'k'),
        ("signal", 's'), ("verbose", 'v')] } words.tail
  let wrong {α : Type} (text : String) : Run α := do
    complain text
    Run.warn (← tryHelp)
    leave 125
  let milliseconds (text : String) : Run Nat := do
    match Saying.duration? text with
    | some n => return n
    | none => wrong ("invalid time interval " ++ quote text)
  for value in given.all 'k' do
    let _ ← milliseconds value
  let signal ←
    match given.last? 's' with
    | none => pure 15
    | some text =>
      match Saying.signalOf? text with
      | some n => pure n
      | none => wrong (quote text ++ ": invalid signal")
  match given.operands with
  | limit :: command =>
    if command.isEmpty then
      Run.warn (← tryHelp)
      leave 125
    let limit ← milliseconds limit
    let failing (e : FileError) : Run Unit := do
      Run.onProcess fun p => { p with name := words.headD "timeout" }
      note (cannotRun command e) (if e == .missing then 127 else 126)
    let start : Run ExitStatus := Launch.run interp command failing
    match ← (if limit == 0 then some <$> start else within limit start) with
    | some (.code n) => Run.setStatus n
    | some (.signal n) => throw (.killed n)
    | none =>
      if given.has 'v' then
        complain ("sending signal " ++ Signal.name signal ++ " to command "
          ++ quote (command.headD ""))
      if signal == 9 then throw (.killed 9)
      Run.setStatus (if given.has 'p' then 128 + signal else 124)
  | [] =>
    Run.warn (← tryHelp)
    leave 125

end MonitorKeys.Shell.Tool.Starting
