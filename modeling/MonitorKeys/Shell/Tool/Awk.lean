import MonitorKeys.Shell.Tool.Awk.Evaluation

/-!
# The pattern language

`awk` looks at its input record by record, and follows those rules of its program whose patterns fit.
-/

namespace MonitorKeys.Shell.Tool.Awk

/-- How the program is used. -/
def usage : String :=
  "Usage: mawk [Options] [Program] [file ...]\n"

/-- The version of the program. -/
def version : String :=
  "mawk 1.3.4\n"

/-! ## The command line -/

/-- What the command line asks for. -/
structure Request where
  separator : Option String := none
  /-- The variables that are set, the last one first. -/
  given : List (String × String) := []
  /-- The files that hold the program, the last one first. -/
  files : List String := []
  words : List String

/-- Say what is wrong and end the program. -/
def stop {α : Type} (text : String) : Run α := do
  Run.warn (Tree.baseName (← Run.process).name ++ ": " ++ text ++ "\n")
  leave 2

/-- Print a text and end the program. -/
def say {α : Type} (text : String) : Run α := do
  let _ ← Run.write 1 text
  leave 0

/-- The names that the option for details takes. -/
def details : List String :=
  ["compat", "dump", "exec", "help", "interactive", "posix", "posix_space", "random", "repetitions",
   "sprintf", "traditional", "usage", "version"]

/-- Follow the option for details. -/
def detail (word : String) : Run Unit := do
  let name := String.ofList (word.toList.takeWhile (· != '='))
  match details.find? (·.startsWith name) with
  | some "help" | some "usage" =>
    say usage
  | some "version" =>
    say version
  | some _ => return
  | none =>
    Run.warn (Tree.baseName (← Run.process).name ++ ": vacuous option: -W \"" ++ word ++ "\"\n")

/-- What the arguments ask for.  The first argument bounds their number. -/
def requestFrom : Nat → Request → Run Request
  | 0, request => return request
  | n + 1, request => do
    match request.words with
    | [] => return request
    | word :: rest =>
      match word.toList with
      | ['-', '-'] => return { request with words := rest }
      | '-' :: '-' :: cs =>
        let name := String.ofList (cs.takeWhile (· != '='))
        if details.any (·.startsWith name) then
          detail (String.ofList cs)
          requestFrom n { request with words := rest }
        else stop ("not an option: " ++ word)
      | '-' :: c :: cs =>
        if !"fFvW".toList.contains c then stop ("not an option: " ++ word)
        let (value, rest) ←
          match cs, rest with
          | [], value :: rest => pure (value, rest)
          | [], [] => stop ("option -" ++ String.singleton c ++ " lacks argument")
          | cs, rest => pure (String.ofList cs, rest)
        let request := { request with words := rest }
        if c == 'f' then requestFrom n { request with files := value :: request.files }
        else if c == 'F' then requestFrom n { request with separator := some (unescape value) }
        else if c == 'W' then
          detail value
          requestFrom n request
        else
          match Eval.assignment? value with
          | some (name, text) =>
            requestFrom n { request with given := (name, unescape text) :: request.given }
          | none => stop ("improper assignment: -v " ++ value)
      | _ => return request

/-! ## Running rules -/

namespace Eval

/-- How deep expressions and calls can be nested. -/
def greatestDepth : Nat := 100000

/-- Run an action, and say whether the program goes on. -/
def untilExit (action : Eval Unit) : Eval Bool := do
  try
    action
    return true
  catch
    | .exit => return false
    | other => throw other

/-- Whether a rule is meant for the record; the number is that of the rule. -/
def applies (eval : Expr → Eval Value) (number : Nat) : Pattern → Eval Bool
  | .start | .finish => return false
  | .always => return true
  | .test e => return isTrue (← eval e)
  | .range first last => do
    if !(← get).ranges.contains number then
      if !isTrue (← eval first) then return false
      modify fun w => { w with ranges := number :: w.ranges }
    if isTrue (← eval last) then
      modify fun w => { w with ranges := w.ranges.erase number }
    return true

/-- Follow the rules for the record. -/
def followRules (interp : Interpreter) (program : Program) : Eval Unit := do
  try
    for (rule, number) in program.rules.zipIdx do
      if ← applies (value interp program greatestDepth) number rule.pattern then
        let _ ← run interp program greatestDepth rule.action
  catch
    | .next => return
    | .nextFile => modify fun w => { w with current := none }
    | other => throw other

/-- Look at all records.  The first argument bounds their number. -/
def followRecords (interp : Interpreter) (program : Program) : Nat → Eval Unit
  | 0 => return
  | n + 1 => do
    match ← nextOfFiles with
    | none => return
    | some s =>
      setRecord s
      followRules interp program
      followRecords interp program n

/-- Follow the rules that are meant for the start, or for the end. -/
def followOnce (interp : Interpreter) (program : Program) (isTime : Pattern → Bool) :
    Eval Unit := do
  for rule in program.rules do
    if isTime rule.pattern then
      let _ ← run interp program greatestDepth rule.action

/-- Run a whole program. -/
def whole (interp : Interpreter) (program : Program) : Eval Unit := do
  let isStart : Pattern → Bool
    | .start => true
    | _ => false
  let isFinish : Pattern → Bool
    | .finish => true
    | _ => false
  if ← untilExit (followOnce interp program isStart) then
    if program.rules.any fun r => !isStart r.pattern then
      let _ ← untilExit (followRecords interp program greatestRounds)
  let _ ← untilExit (followOnce interp program isFinish)
  finish interp

/-- End a program that cannot go on: what was printed is handed on all the same. -/
def endEarly (interp : Interpreter) : Eval Unit := do
  modify fun w => { w with status := 2 }
  let _ ← closePrinted
  for s in (← get).sinks do
    if s.isCommand then
      let _ ← closeSink interp s
    else
      let _ ← flushSink s

end Eval

/-! ## The program -/

/-- The text of the program. -/
def programText (files : List String) : Run String := do
  let mut texts := []
  for file in files do
    match ← contentOf (if file == "/dev/stdin" then "-" else file) with
    | .ok s => texts := s :: texts
    | .error e => stop ("cannot open \"" ++ file ++ "\" (" ++ e.text ++ ")")
  return "\n".intercalate texts.reverse

/-- The state in which a program starts. -/
def initial (name : String) (arguments : List String) (environment : List (String × String))
    (tables : List String) : World :=
  let table (pairs : List (Key × String)) : Table :=
    pairs.foldl (fun t (key, s) => t.put key (.given s)) {}
  let words := (name :: arguments).zipIdx.map fun (s, i) => (Key.number i, s)
  { values := Std.HashMap.ofList
      [("CONVFMT", .text "%.6g"), ("OFMT", .text "%.6g"), ("FS", .text " "), ("OFS", .text " "),
       ("ORS", .text "\n"), ("RS", .text "\n"), ("SUBSEP", .text "\x1c"), ("NR", .number 0.0),
       ("FNR", .number 0.0), ("ARGC", .number (natural words.length))]
    tables :=
      (tables.foldl (fun ts s => ts.insert s {}) ({} : Std.HashMap String Table)).insertMany
        [("ARGV", table words),
         ("ENVIRON", table (environment.map fun (name, s) => (.text name, s)))] }

/-- `awk`. -/
def awk : Tool := fun interp words => do
  if words.length ≤ 1 then
    say usage
  let request ← requestFrom words.length { words := words.tail }
  let name := Tree.baseName (← Run.process).name
  let separators := request.given.reverse.filter fun (name, _) => name == "FS" || name == "RS"
  for s in separators.map (·.2) ++ request.separator.toList do
    if 2 ≤ s.length then
      if let .error e := readRegex s then
        stop ("line 0: regular expression compile failed (" ++ e.text ++ ")\n" ++ s)
  let (text, arguments) ←
    match request.files, request.words with
    | [], [] => leave 0
    | [], text :: arguments => if text == "-" then leave 0 else pure (text, arguments)
    | files, arguments => pure (← programText files.reverse, arguments)
  match readProgram text with
  | .error messages =>
    for message in messages do
      Run.warn (name ++ ": " ++ message ++ "\n")
    leave 2
  | .ok (program, tables) =>
    let world := initial name arguments (← Run.environment) tables
    let set (world : World) (name : String) (v : Value) : World :=
      { world with values := world.values.insert name v }
    let world := match request.separator with
      | some s => set world "FS" (.text s)
      | none => world
    let world := request.given.reverse.foldl (fun w (name, s) => set w name (.given s)) world
    let (ended, world) ← StateT.run (ExceptT.run (Eval.whole interp program)) world
    let world ←
      match ended with
      | .ok _ => pure world
      | .error _ => do
        let (_, world) ← StateT.run (ExceptT.run (Eval.endEarly interp)) world
        pure world
    leave world.status

end MonitorKeys.Shell.Tool.Awk
