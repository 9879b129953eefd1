import MonitorKeys.Shell.Tool.Copying
import MonitorKeys.Shell.Tool.Sed.Reader

/-!
# The stream editor

`sed` runs a script once for every line of its input: the line is put into the pattern space, the
commands of the script change that, and at the end it is printed.  `Sed.Edit` is what a run keeps in
mind, and `Sed.Edit.commandsFrom` runs the commands from a place on.
-/

namespace MonitorKeys.Shell.Tool.Sed

/-- A line of the input: its text, whether it has an end, and the name of its file. -/
structure Line where
  text : String
  hasEnd : Bool
  file : String

/-- Whether a range of lines is open, and if so, up to which line. -/
inductive RangeState where
  | closed
  | open (stop : Option Nat)
  deriving Inhabited

/-- What is printed at the end of a cycle. -/
inductive Queued where
  | text (s : String)
  | file (path : String)

/-- What a run keeps in mind. -/
structure Edit where
  pattern : String := ""
  hold : String := ""
  /-- Whether the line in the hold space has an end. -/
  holdEnds : Bool := true
  /-- The number of the line. -/
  number : Nat := 0
  /-- Whether the line has an end. -/
  hasEnd : Bool := true
  file : String := "-"
  input : List Line
  made : Bool := false
  queue : List Queued := []
  ranges : Array RangeState
  lastRegex : Option Regex := none
  /-- Whether the end of the last line that was printed is missing. -/
  owesEnd : Bool := false
  silent : Bool
  lineEnd : Char := '\n'
  width : Nat := 70
  /-- The open files that commands write to. -/
  outputs : List (String × Nat) := []
  /-- How far files have been read line by line. -/
  inputs : List (String × List String) := []
  /-- Where the output goes instead of the standard output. -/
  collected : Option String := none

/-- An action of a run. -/
abbrev EditM := StateT Edit Run

/-- How the commands of a cycle end. -/
inductive Ending where
  /-- The pattern space is printed. -/
  | cycle
  /-- It is not printed. -/
  | noPrint
  /-- It is not printed, and the next cycle goes on with what is left of it. -/
  | again
  | quit (status : Nat) (prints : Bool)

namespace EditM

/-- Stop because of something that a script asks for at the wrong time. -/
def fail {α : Type} (text : String) : EditM α :=
  (die ("-e expression #1, char 0: " ++ text) : Run α)

/-- Put a text on the output. -/
def put (s : String) : EditM Unit := do
  match (← get).collected with
  | some soFar => modify fun e => { e with collected := some (soFar ++ s) }
  | none =>
    match ← (Run.write 1 s : Run (Option FileError)) with
    | none => return
    | some e => (die ("couldn't write " ++ toString s.length ++ " items to stdout: " ++ e.text) 4 : Run Unit)

/-- Put a text on the output behind the end of the line before. -/
def emit (s : String) : EditM Unit := do
  let e ← get
  if e.owesEnd then
    put (String.singleton e.lineEnd)
    modify fun e => { e with owesEnd := false }
  put s

/-- Print a line as it ends in the input. -/
def emitLine (s : String) : EditM Unit := do
  let e ← get
  if e.hasEnd then emit (s ++ String.singleton e.lineEnd)
  else
    emit s
    modify fun e => { e with owesEnd := true }

/-- Put a line into a file of the script. -/
def writeLine (path s : String) : EditM Unit := do
  if path == "/dev/stdout" then
    let e ← get
    put (if e.hasEnd then s ++ String.singleton e.lineEnd else s)
  else
    let line := s ++ String.singleton (← get).lineEnd
    if path == "/dev/stderr" then (Run.warn line : Run Unit)
    else
      match (← get).outputs.lookup path with
      | none => return
      | some file =>
        match (← (Run.system : Run System)).files[file]? with
        | none => return
        | some opened =>
          let _ ← (Run.writeTo file opened line : Run (Option FileError))

/-- Print what was queued. -/
def flushQueue : EditM Unit := do
  let queue := (← get).queue
  modify fun e => { e with queue := [] }
  for queued in queue.reverse do
    match queued with
    | .text s => emit s
    | .file path =>
      match ← (contentOf (if path == "/dev/stdin" then "-" else path) : Run _) with
      | .ok s => emit s
      | .error _ => pure ()

/-- Take the next line; `false` where there is none. -/
def takeLine (join : Bool) : EditM Bool := do
  let e ← get
  match e.input with
  | [] => return false
  | line :: rest =>
    flushQueue
    modify fun e =>
      { e with
        pattern := if join then e.pattern ++ String.singleton e.lineEnd ++ line.text else line.text
        hasEnd := line.hasEnd, file := line.file, number := e.number + 1, input := rest
        made := false }
    return true

/-! ## Addresses -/

/-- The expression that an empty one stands for, or the given one, which is kept in mind. -/
def regex (r : Option Regex) : EditM Regex := do
  match r with
  | some r =>
    modify fun e => { e with lastRegex := some r }
    return r
  | none =>
    match (← get).lastRegex with
    | some r => return r
    | none => fail "no previous regular expression"

/-- Whether the line has an address. -/
def isAt (a : Address) : EditM Bool := do
  let e ← get
  match a with
  | .line n => return e.number == n
  | .last => return e.input.isEmpty
  | .fits r => return (← regex r).isIn e.pattern.toList
  | .every first step => return first ≤ e.number && (e.number - first) % step == 0

/-- Set whether the range of a command is open. -/
def setRange (place : Nat) (state : RangeState) : EditM Unit :=
  modify fun e => { e with ranges := e.ranges.setIfInBounds place state }

/-- Whether the line lies in the range of a command, which opens and closes thereby. -/
def isWithin (place : Nat) (first : Address) (second : RangeEnd) : EditM Bool := do
  let e ← get
  let opened (stop : Nat) : EditM Unit := do
    if e.number < stop then setRange place (.open (some stop))
  match e.ranges[place]?.getD .closed with
  | .open (some stop) =>
    if stop ≤ e.number then setRange place .closed
    return e.number ≤ stop
  | .open none =>
    match second with
    | .at a => if ← isAt a then setRange place .closed
    | _ => pure ()
    return true
  | .closed =>
    if !(← isAt first) then return false
    match second with
    | .at (.line n) => opened n
    | .at .last => if !e.input.isEmpty then setRange place (.open none)
    | .at _ => setRange place (.open none)
    | .after n => opened (e.number + n)
    | .multiple n => if n != 0 then opened ((e.number + n - 1) / n * n)
    return true

/-- Whether a command is run for the line. -/
def applies (place : Nat) (c : Command) : EditM Bool := do
  let found ←
    match c.first, c.second with
    | none, _ => pure true
    | some a, none => isAt a
    | some a, some b => isWithin place a b
  return found != c.negated

/-! ## Substitutions -/

/-- How letters are changed: all of them, and the next one. -/
structure Casing where
  all : CaseChange := .keep
  next : CaseChange := .keep

/-- A text with its letters changed. -/
def Casing.apply (c : Casing) (s : String) : String × Casing :=
  let change (how : CaseChange) (c : Char) : Char :=
    match how with
    | .upper | .upperNext => c.toUpper
    | .lower | .lowerNext => c.toLower
    | .keep => c
  match s.toList with
  | [] => ("", c)
  | first :: rest =>
    let how := if c.next == .keep then c.all else c.next
    (String.ofList (change how first :: rest.map (change c.all)), { c with next := .keep })

/-- The text that takes the place of a match. -/
def replacement (text : Array Char) (m : Regex.Match) (pieces : List Piece) : String :=
  (pieces.foldl
    (fun (out, casing) piece =>
      match piece with
      | .text s =>
        let (s, casing) := Casing.apply casing s
        (out ++ s, casing)
      | .group n =>
        let (s, casing) := Casing.apply casing (String.ofList ((m.text? text n).getD []))
        (out ++ s, casing)
      | .change .keep => (out, {})
      | .change .upperNext => (out, { casing with next := .upperNext })
      | .change .lowerNext => (out, { casing with next := .lowerNext })
      | .change c => (out, { casing with all := c }))
    ("", ({} : Casing))).1

/-- The rest of a text after a substitution from a place on, and whether anything was replaced.  The
numbers are a bound, the place, the end of the match before, and the number of the next match. -/
def replaced (s : Substitution) (r : Regex) (text : Array Char) :
    Nat → Nat → Option Nat → Nat → List String → List String × Bool
  | 0, _, _, _, out => (out, false)
  | n + 1, place, before, count, out =>
    let rest := String.ofList (text.extract place text.size).toList
    match r.find? text place with
    | none => (rest :: out, false)
    | some m =>
      let kept := String.ofList (text.extract place m.start).toList
      let stepOver (out : List String) (count : Nat) : List String × Bool :=
        let c := String.ofList (text.extract m.stop (m.stop + 1)).toList
        if text.size ≤ m.stop then (out, false)
        else replaced s r text n (m.stop + 1) none count (c :: out)
      if m.start == m.stop && before == some m.start then stepOver (kept :: out) count
      else if count < s.first then
        let same := String.ofList (text.extract m.start m.stop).toList
        if m.start == m.stop then stepOver (kept :: out) (count + 1)
        else replaced s r text n m.stop (some m.stop) (count + 1) (same :: kept :: out)
      else
        let new := replacement text m s.pieces
        if !s.all then
          (String.ofList (text.extract m.stop text.size).toList :: new :: kept :: out, true)
        else if m.start == m.stop then
          let (out, _) := stepOver (new :: kept :: out) (count + 1)
          (out, true)
        else
          let (out, _) := replaced s r text n m.stop (some m.stop) (count + 1) (new :: kept :: out)
          (out, true)

/-- Run a command of the system, and give back what it prints. -/
def commandOutput (interp : Interpreter) (command : String) : EditM String := do
  let (out, _) ← (outputOf interp ["sh", "-c", command] fun _ => Run.setStatus 127 : Run _)
  return out

/-- Carry out a substitution. -/
def substitute (interp : Interpreter) (s : Substitution) : EditM Unit := do
  let r ← regex s.regex
  let text := (← get).pattern.toList.toArray
  let (parts, found) := replaced s r text (2 * text.size + 2) 0 none 1 []
  if found then
    modify fun e => { e with pattern := String.join parts.reverse, made := true }
    if s.runs then
      let out ← commandOutput interp (← get).pattern
      let out := if out.endsWith "\n" then (out.dropEnd 1).toString else out
      modify fun e => { e with pattern := out }
    if s.prints != 0 then emitLine (← get).pattern
    match s.file with
    | some path => writeLine path (← get).pattern
    | none => pure ()

/-! ## Showing a line -/

/-- A character as the command `l` shows it. -/
def shownChar (c : Char) : String :=
  match [('\\', "\\\\"), ('\x07', "\\a"), ('\x08', "\\b"), ('\x0c', "\\f"), ('\n', "\\n"),
      ('\r', "\\r"), ('\t', "\\t"), ('\x0b', "\\v")].lookup c with
  | some s => s
  | none =>
    if 32 ≤ c.toNat && c.toNat < 127 then String.singleton c
    else "\\" ++ Raw.padLeft 3 '0' (Raw.inBase 8 c.toNat)

/-- A text in lines of at most some width. -/
def folded (width : Nat) (cs : List Char) : String :=
  let (out, _) := cs.foldl
    (fun (out, column) c =>
      let s := shownChar c
      if 1 < width && width - 1 < column + s.length then (out ++ "\\\n" ++ s, s.length)
      else (out ++ s, column + s.length))
    ("", 0)
  out ++ "$\n"

/-! ## Commands -/

/-- The first line of the pattern space, and whether there is more behind it. -/
def firstLine : EditM (String × Option String) := do
  let e ← get
  let s := e.pattern.toList
  let first := s.takeWhile (· != e.lineEnd)
  return (String.ofList first,
    if first.length < s.length then some (String.ofList (s.drop (first.length + 1))) else none)

/-- The next line of a file that is read line by line. -/
def nextOf (path : String) : EditM (Option String) := do
  let e ← get
  let lines ←
    match e.inputs.lookup path with
    | some lines => pure lines
    | none =>
      match ← (contentOf path : Run _) with
      | .ok s => pure (Raw.lines s)
      | .error _ => pure []
  let rest := e.inputs.filter (·.1 != path)
  set { e with inputs := (path, lines.tail) :: rest }
  return lines.head?

/-- Run the commands from a place on.  The first argument bounds their number. -/
def commandsFrom (interp : Interpreter) (script : Script) : Nat → Nat → EditM Ending
  | 0, _ => (throw .expired : Run Ending)
  | n + 1, place => do
    let goOn (place : Nat) : EditM Ending := commandsFrom interp script n place
    match script.commands[place]? with
    | none => return .cycle
    | some c =>
      let next := goOn (place + 1)
      if !(← applies place c) then
        match c.action with
        | .block stop => goOn stop
        | _ => next
      else
        let then_ (action : EditM Unit) : EditM Ending := do
          action
          next
        match c.action with
        | .block _ | .nothing => next
        | .append s => then_ (modify fun e => { e with queue := .text s :: e.queue })
        | .insert s => then_ (emit s)
        | .change s =>
          let isOpen :=
            match (← get).ranges[place]?.getD .closed with
            | .closed => false
            | .open _ => true
          if c.second.isNone || c.negated || !isOpen then emit s
          return .noPrint
        | .jump target => goOn target
        | .jumpIf made target =>
          let was := (← get).made
          modify fun e => { e with made := false }
          if was == made then goOn target else next
        | .delete => return .noPrint
        | .deleteFirst =>
          match (← firstLine).2 with
          | none => return .noPrint
          | some rest =>
            modify fun e => { e with pattern := rest }
            return .again
        | .run command =>
          if command.isEmpty then
            let out ← commandOutput interp (← get).pattern
            then_ (modify fun e =>
              { e with pattern := if out.endsWith "\n" then (out.dropEnd 1).toString else out })
          else then_ (do emit (← commandOutput interp command))
        | .name => then_ (do emit ((← get).file ++ "\n"))
        | .get => then_ (modify fun e => { e with pattern := e.hold, hasEnd := e.holdEnds })
        | .getAppend =>
          then_ (modify fun e =>
            { e with
              pattern := e.pattern ++ String.singleton e.lineEnd ++ e.hold, hasEnd := e.holdEnds })
        | .hold => then_ (modify fun e => { e with hold := e.pattern, holdEnds := e.hasEnd })
        | .holdAppend =>
          then_ (modify fun e =>
            { e with
              hold := e.hold ++ String.singleton e.lineEnd ++ e.pattern, holdEnds := e.hasEnd })
        | .exchange =>
          then_ (modify fun e =>
            { e with
              pattern := e.hold, hold := e.pattern, hasEnd := e.holdEnds, holdEnds := e.hasEnd })
        | .list width =>
          then_ (do
            let e ← get
            emit (folded (width.getD e.width) e.pattern.toList))
        | .next =>
          if (← get).input.isEmpty then return .quit 0 true
          unless (← get).silent do emitLine (← get).pattern
          let _ ← takeLine false
          next
        | .nextAppend =>
          if (← get).input.isEmpty then return .quit 0 true
          let _ ← takeLine true
          next
        | .print => then_ (do emitLine (← get).pattern)
        | .printFirst => then_ (do emit ((← firstLine).1 ++ String.singleton (← get).lineEnd))
        | .quit status silent => return .quit status (!silent)
        | .readFile path => then_ (modify fun e => { e with queue := .file path :: e.queue })
        | .readLine path =>
          match ← nextOf path with
          | some line => then_ (modify fun e => { e with queue := .text (line ++ "\n") :: e.queue })
          | none => next
        | .substitute s => then_ (substitute interp s)
        | .write path => then_ (do writeLine path (← get).pattern)
        | .writeFirst path => then_ (do writeLine path (← firstLine).1)
        | .replace pairs =>
          then_ (modify fun e =>
            { e with pattern := e.pattern.map fun c => (pairs.lookup c).getD c })
        | .zap => then_ (modify fun e => { e with pattern := "" })
        | .number => then_ (do emit (toString (← get).number ++ "\n"))

/-- Run cycles until the input ends or a command says so; the answer is the status, if a command
gives one.  The first argument bounds the number of cycles. -/
def cycles (interp : Interpreter) (script : Script) (steps : Nat) :
    Nat → Bool → EditM (Option Nat)
  | 0, _ => return none
  | n + 1, keeps => do
    (Run.spend 1 : Run Unit)
    unless keeps do
      if !(← takeLine false) then return none
    let finish (prints : Bool) : EditM Unit := do
      if prints && !(← get).silent then emitLine (← get).pattern
      flushQueue
    match ← commandsFrom interp script steps 0 with
    | .cycle =>
      finish true
      cycles interp script steps n false
    | .noPrint =>
      finish false
      cycles interp script steps n false
    | .again =>
      finish false
      cycles interp script steps n true
    | .quit status prints =>
      if prints then finish true
      return some status

end EditM

/-! ## The program -/

/-- How the program is used. -/
def usage : String :=
  "Usage: sed [OPTION]... \x7bscript-only-if-no-other-script\x7d [input-file]...\n"

/-- The options of the program. -/
def options : Options :=
  { flags := "nErsuzbp", values := "efl", maybes := "i"
    long := [("quiet", 'n'), ("silent", 'n'), ("regexp-extended", 'E'), ("expression", 'e'),
      ("file", 'f'), ("in-place", 'i'), ("line-length", 'l'), ("separate", 's'),
      ("unbuffered", 'u'), ("null-data", 'z'), ("zero-terminated", 'z'), ("posix", 'p'),
      ("debug", 'b'), ("sandbox", 'b'), ("follow-symlinks", 'b'), ("binary", 'b')]
    usage := some usage }

/-- Read the parts of a script; a mistake ends the program. -/
def readParts (extended : Bool) (parts : List (String × String)) : Run Script := do
  let mut reading : Reading := { chars := #[], extended }
  let mut count := 0
  for (source, text) in parts do
    if source.isEmpty then count := count + 1
    match (Read.part text).run reading with
    | .ok _ r => reading := r
    | .error e r =>
      if source.isEmpty then
        die ("-e expression #" ++ toString count ++ ", char " ++ toString e.place ++ ": " ++ e.text)
      else
        let line := 1 + ((r.chars.toList.take e.place).filter (· == '\n')).length
        die ("file " ++ source ++ " line " ++ toString line ++ ": " ++ e.text)
  unless reading.blocks.isEmpty do
    die ("-e expression #" ++ toString count ++ ", char 0: unmatched \x60\x7b'")
  match reading.script with
  | .ok script => return script
  | .error name => die ("can't find label for jump to \x60" ++ name ++ "'") 4

/-- The parts of the script that options give. -/
def givenParts (given : Given) : Run (List (String × String)) := do
  let mut parts := []
  for (c, value) in given.options do
    if c == 'e' then parts := ("", value) :: parts
    if c == 'f' then
      match ← contentOf value with
      | .ok s => parts := (value, s) :: parts
      | .error e => die ("couldn't open file " ++ value ++ ": " ++ e.text) 4
  return parts.reverse

/-- The files that a script writes to. -/
def outputFiles (script : Script) : List String :=
  script.commands.toList.filterMap fun c =>
    match c.action with
    | .write path | .writeFirst path => some path
    | .substitute s => s.file
    | _ => none

/-- The lines of a text. -/
def linesOf (ending : Char) (file text : String) : List Line :=
  let parts := text.splitOn (String.singleton ending)
  let complete := parts.dropLast.map (Line.mk · true file)
  match parts.getLast? with
  | some "" | none => complete
  | some last => complete ++ [⟨last, false, file⟩]

/-- `sed`. -/
def sed : Tool := fun interp words => do
  let given ← options.read words.tail
  let (parts, paths) ←
    if given.has 'e' || given.has 'f' then pure (← givenParts given, given.operands)
    else
      match given.operands with
      | [] =>
        Run.warn usage
        leave 1
      | first :: rest => pure ([("", first)], rest)
  let script ← readParts (given.has 'E' || given.has 'r') parts
  let mut outputs := []
  for path in (outputFiles script).eraseDups do
    unless path == "/dev/stdout" || path == "/dev/stderr" do
      match ← Run.openPath path .write with
      | .ok file => outputs := (path, file) :: outputs
      | .error e => die ("couldn't open file " ++ path ++ ": " ++ e.text) 4
  let lineEnd := if given.has 'z' then '\x00' else '\n'
  let inPlace := given.last? 'i'
  let mut streams : List (String × List Line) := []
  let mut broken : Option String := none
  for path in if paths.isEmpty then ["-"] else paths do
    if broken.isNone then
      match ← contentOf path with
      | .ok s => streams := (path, linesOf lineEnd path s) :: streams
      | .error .isDirectory =>
        if inPlace.isSome then note ("couldn't edit " ++ path ++ ": not a regular file") 4
        else
          broken := some ("read error on " ++ (if path == "-" then "stdin" else path) ++ ": "
            ++ FileError.text .isDirectory)
      | .error e =>
        note ("can't read " ++ path ++ ": " ++ e.text) 2
  let separate := given.has 's' || inPlace.isSome
  let all := streams.reverse
  let runs := if separate then all else [("-", all.flatMap (·.2))]
  let bound := (← Run.system).steps
  let ranges := script.commands.map fun c => if c.early then RangeState.open none else .closed
  let silent := given.has 'n' || script.silent
  let width := ((given.last? 'l').bind Raw.nat?).getD 70
  for (path, input) in runs do
    let start : Edit :=
      { input, ranges, silent, lineEnd, outputs, width
        collected := if inPlace.isSome then some "" else none }
    let (status, e) ← (EditM.cycles interp script bound (bound + 1) false).run start
    match e.collected with
    | some text =>
      match inPlace with
      | some suffix =>
        unless suffix.isEmpty do
          let old := (← contentOf path).toOption.getD ""
          let _ ← save (path ++ suffix) old
        let rest := e.input.map fun line =>
          line.text ++ if line.hasEnd then String.singleton lineEnd else ""
        let _ ← save path (text ++ String.join rest)
      | none => pure ()
    | none => pure ()
    match status with
    | some n => leave n
    | none => pure ()
  match broken with
  | some text => die text 4
  | none => return

end MonitorKeys.Shell.Tool.Sed
