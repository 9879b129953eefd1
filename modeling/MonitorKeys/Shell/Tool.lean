import MonitorKeys.Shell.Launch

/-!
# Programs of the system

Shell commands start programs that read files and their input, and print.  This file holds what
these programs share: how they take options, how they say what is wrong, and how they read and print.
The programs themselves stand in the files of the folder of the same name.

A program ends by `Tool.leave`, or by getting to the end of its action; its status is that of its
process.
-/

namespace MonitorKeys.Shell

/-- A program: what it does when it is started with some words, the first of which is its name. -/
abbrev Tool := Interpreter → List String → Run Unit

namespace Tool

/-! ## Messages and ends -/

/-- End the program with a status. -/
def leave {α : Type} (status : Nat) : Run α := do
  Run.setStatus status
  throw .leave

/-- Say what is wrong, after the name of the program. -/
def complain (text : String) : Run Unit := do
  Run.warn ((← Run.process).name ++ ": " ++ text ++ "\n")

/-- Say what is wrong and note that the program fails. -/
def note (text : String) (status : Nat := 1) : Run Unit := do
  complain text
  Run.setStatus status

/-- Say what is wrong and end the program. -/
def die {α : Type} (text : String) (status : Nat := 1) : Run α := do
  complain text
  leave status

/-- The name of the program in a message that asks to look up its options. -/
def tryHelp : Run String := do
  return "Try '" ++ (← Run.process).name ++ " --help' for more information.\n"

/-- Say what is wrong with the arguments and end the program. -/
def misuse {α : Type} (text : String) (status : Nat := 1) : Run α := do
  complain text
  Run.warn (← tryHelp)
  leave status

/-- A text in the quotes of messages. -/
def quote (s : String) : String :=
  let shown := s.toList.map fun c =>
    if c == '\'' then "\\'" else if c == '\\' then "\\\\" else if c == '\n' then "\\n"
    else if c == '\t' then "\\t"
    else if c.toNat < 32 || 127 ≤ c.toNat then "\\" ++ Raw.padLeft 3 '0' (Raw.inBase 8 c.toNat)
    else String.singleton c
  "'" ++ String.join shown ++ "'"

/-- Say that an argument is none of those that an option takes, and end the program. -/
def wrongWord {α : Type} (option word : String) (valid : List String) (status : Nat := 1)
    (usage : Option String := none) : Run α := do
  complain ("invalid argument " ++ quote word ++ " for '--" ++ option ++ "'")
  Run.warn ("Valid arguments are:\n" ++ String.join (valid.map fun v => "  - " ++ v ++ "\n"))
  Run.warn (usage.getD (← tryHelp))
  leave status

/-- A file name in messages, quoted only where it would not stand out otherwise. -/
def fileName (s : String) : String :=
  let isPlain (c : Char) := c.isAlphanum || "%+,-./:=@_^".toList.contains c || 128 ≤ c.toNat
  if !s.isEmpty && s.toList.all isPlain then s else "'" ++ s.replace "'" "'\\''" ++ "'"

/-! ## Printing and reading -/

/-- Print a text; a program that cannot do so ends. -/
def print (s : String) (status : Nat := 1) : Run Unit := do
  match ← Run.write 1 s with
  | none => return
  | some e => die ("write error: " ++ e.text) status

/-- Print a text; a program that cannot do so ends, and does not say that there is no room. -/
def printBriefly (s : String) : Run Unit := do
  match ← Run.write 1 s with
  | none => return
  | some .full => die "write error"
  | some e => die ("write error: " ++ e.text)

/-- What a file or, for a hyphen, the input holds. -/
def contentOf (path : String) : Run (Except FileError String) := do
  if path == "-" then Run.read 0
  else
    match ← Run.openPath path .read with
    | .error e => return .error e
    | .ok file =>
      match (← Run.system).files[file]? with
      | some opened => Run.readFrom file opened none
      | none => return .error .missing

/-- The contents of files in their order; what cannot be read is noted and left out. -/
def contents (paths : List String) (status : Nat := 1) : Run (List (String × String)) := do
  let mut all := []
  for path in if paths.isEmpty then ["-"] else paths do
    match ← contentOf path with
    | .ok s => all := (path, s) :: all
    | .error e => note (fileName path ++ ": " ++ e.text) status
  return all.reverse

/-- Say that the input could not be closed, where it was among the files and is not open. -/
def closeInput (paths : List String) : Run Unit := do
  if (paths.isEmpty || paths.contains "-") && (← Run.openFile? 0).isNone then
    note ("-: " ++ FileError.text .badDescriptor)

/-- What goes wrong with a number outside of its range. -/
def rangeError (n : Nat) : String :=
  SystemError.text (if 2 ^ 30 ≤ n then 75 else 34)

/-- The number that an argument writes, which has to lie in a range; `what` says what it is for. -/
def natOf (what : String) (low high : Nat) (text : String) : Run Nat := do
  match Raw.nat? (if text.startsWith "+" then (text.drop 1).toString else text) with
  | none => die (what ++ ": " ++ quote text)
  | some n =>
    if n < low || high < n then die (what ++ ": " ++ quote text ++ ": " ++ rangeError n)
    return n

/-- Put a text into a file that is made or emptied for it. -/
def save (path text : String) (opening : Opening := .write) : Run (Option FileError) := do
  match ← Run.openPath path opening with
  | .error e => return some e
  | .ok file =>
    match (← Run.system).files[file]? with
    | some opened => Run.writeTo file opened text
    | none => return some .missing

/-! ## Other programs -/

/-- Run a program in a process of its own, and give back what it prints and how it ends. -/
def outputOf (interp : Interpreter) (words : List String) (complain : FileError → Run Unit) :
    Run (String × ExitStatus) := do
  let pipe ← Run.addPipe
  let file ← Run.addFile { target := .pipe pipe, writable := true }
  let ended ← Run.withDescriptor 1 (some file) (Launch.run interp words complain)
  let content := ((← Run.system).pipes.getD pipe {}).content
  return (Raw.load content 0 content.size, ended)

/-- Run an action whose input is a text. -/
def withInput {α : Type} (text : String) (action : Run α) : Run α := do
  let pipe ← Run.addPipe
  Run.onSystem fun y =>
    { y with pipes := y.pipes.modify pipe fun p => { p with content := Raw.store .empty text } }
  let file ← Run.addFile { target := .pipe pipe, readable := true }
  Run.withDescriptor 0 (some file) action

/-- Run a shell command in a process of its own and wait for it. -/
def shellCommand (interp : Interpreter) (text : String) : Run ExitStatus :=
  Launch.run interp ["sh", "-c", text] fun _ => Run.setStatus 127

/-! ## Options -/

/-- Whether an option has a value. -/
inductive Arity where
  | flag
  | value
  /-- A value that is attached, or none. -/
  | maybe
  deriving DecidableEq, Repr

/-- The options that a program knows: letters, and long names that each stand for a letter. -/
structure Options where
  flags : String := ""
  values : String := ""
  maybes : String := ""
  long : List (String × Char) := []
  /-- Whether options are looked for behind other arguments, too. -/
  anywhere : Bool := true
  /-- The status of a program whose options are wrong. -/
  misuse : Nat := 1
  /-- What is said about the use of the program instead of the advice to look that up. -/
  usage : Option String := none

/-- The options that were found, with their values, and the other arguments. -/
structure Given where
  options : List (Char × String)
  operands : List String

namespace Given

/-- Whether an option is given. -/
def has (g : Given) (c : Char) : Bool :=
  g.options.any (·.1 == c)

/-- The last value of an option. -/
def last? (g : Given) (c : Char) : Option String :=
  (g.options.reverse.find? (·.1 == c)).map (·.2)

/-- The last one of some options that is given. -/
def lastOf? (g : Given) (cs : String) : Option Char :=
  (g.options.reverse.find? fun o => cs.toList.contains o.1).map (·.1)

/-- The values of an option in their order. -/
def all (g : Given) (c : Char) : List String :=
  g.options.filterMap fun o => if o.1 == c then some o.2 else none

end Given

namespace Options

/-- Say what is wrong with the options and end the program. -/
def wrong {α : Type} (spec : Options) (text : String) : Run α := do
  complain text
  Run.warn (spec.usage.getD (← tryHelp))
  leave spec.misuse

/-- Whether a letter has a value; `none` for letters that are not known. -/
def arity? (spec : Options) (c : Char) : Option Arity :=
  if spec.flags.toList.contains c then some .flag
  else if spec.values.toList.contains c then some .value
  else if spec.maybes.toList.contains c then some .maybe
  else none

/-- The options of the letters of one word, given the words left. -/
def letters (spec : Options) (rest : List String) :
    List Char → Run (List (Char × String) × List String)
  | [] => return ([], rest)
  | c :: cs => do
    match if c == ':' then none else spec.arity? c with
    | none => spec.wrong ("invalid option -- '" ++ String.singleton c ++ "'")
    | some .flag =>
      let (more, rest) ← letters spec rest cs
      return ((c, "") :: more, rest)
    | some .maybe => return ([(c, String.ofList cs)], rest)
    | some .value =>
      if !cs.isEmpty then return ([(c, String.ofList cs)], rest)
      match rest with
      | value :: rest => return ([(c, value)], rest)
      | [] =>
        spec.wrong ("option requires an argument -- '" ++ String.singleton c ++ "'")

/-- The letter that a long name or the beginning of one stands for. -/
def longLetter (spec : Options) (name : String) : Run (String × Char) := do
  match spec.long.find? (·.1 == name) with
  | some found => return found
  | none =>
    match spec.long.filter fun option => option.1.startsWith name with
    | [] => spec.wrong ("unrecognized option '--" ++ name ++ "'")
    | first :: others =>
      if others.all (·.2 == first.2) then return first
      spec.wrong ("option '--" ++ name ++ "' is ambiguous; possibilities:"
        ++ String.join ((first :: others).map fun option => " '--" ++ option.1 ++ "'"))

/-- The option of a long name, with what stands behind its equals sign, given the words left. -/
def longOption (spec : Options) (text : String) (rest : List String) :
    Run ((Char × String) × List String) := do
  let name := String.ofList (text.toList.takeWhile (· != '='))
  let value := if name.length < text.length then some (text.drop (name.length + 1)).toString
    else none
  let (full, c) ← spec.longLetter name
  match spec.arity? c, value, rest with
  | some .flag, some _, _ =>
    spec.wrong ("option '--" ++ full ++ "' doesn't allow an argument")
  | some .value, none, [] =>
    spec.wrong ("option '--" ++ full ++ "' requires an argument")
  | some .value, none, value :: rest => return ((c, value), rest)
  | _, value, rest => return ((c, value.getD ""), rest)

/-- Sort arguments into options and others.  The first argument bounds the number of words. -/
def readFrom (spec : Options) :
    Nat → List String → List (Char × String) → List String → Run Given
  | 0, _, found, others => return ⟨found.reverse, others.reverse⟩
  | n + 1, words, found, others => do
    match words with
    | [] => return ⟨found.reverse, others.reverse⟩
    | word :: rest =>
      match word.toList with
      | ['-', '-'] => return ⟨found.reverse, others.reverse ++ rest⟩
      | '-' :: '-' :: cs =>
        let (option, rest) ← spec.longOption (String.ofList cs) rest
        spec.readFrom n rest (option :: found) others
      | '-' :: c :: cs =>
        let (more, rest) ← spec.letters rest (c :: cs)
        spec.readFrom n rest (more.reverse ++ found) others
      | _ =>
        if spec.anywhere then spec.readFrom n rest found (word :: others)
        else return ⟨found.reverse, others.reverse ++ words⟩

/-- Sort arguments into options and others. -/
def read (spec : Options) (arguments : List String) : Run Given :=
  spec.readFrom (arguments.length + 1) arguments [] []

end Options

end Tool

end MonitorKeys.Shell
