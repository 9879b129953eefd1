import MonitorKeys.Arguments.Usage

/-!
# The usual reader of command lines

A command line is read from left to right.  `Reading` holds what has been checked so far and at
most one argument whose value is still to be checked: an option that waits for its value, a value
that came as an argument of its own, or the input text.  That argument is checked when the next
option, flag or text is reached, or at the end; so the error of an earlier argument is found before
that of a later one.  An argument that is not known at all, or has no place, is an error at once.

* `Reading.step` reads one argument before the separator, and `Reading.stepAfter` one after it.
* `Reading.finish` reads all arguments that are left, and `usualReader` is the reader that does so.
-/

namespace MonitorKeys.Arguments

open Text (Bytes)

/-- Why reading ends without an invocation. -/
inductive Halt where
  /-- The help text is asked for. -/
  | help
  /-- The version is asked for. -/
  | version
  /-- The command line is not accepted. -/
  | usage (error : UsageError)
  deriving DecidableEq, Repr

/-- What a flag asks for. -/
def Flag.halt : Flag → Halt
  | help => .help
  | version => .version

/-- What is printed by a program of this name. -/
def Halt.stop (program : String) : Halt → Stop
  | help => .answered (helpText program)
  | version => .answered versionText
  | usage error => .refused (error.message program)

/-- An argument whose value is still to be checked. -/
inductive Pending where
  | nothing
  /-- An option, and its value once there is one. -/
  | option (choice : Choice) (value : Option Bytes)
  /-- The input text. -/
  | input (value : Bytes)
  deriving DecidableEq, Repr

/-- How far a command line has been read. -/
structure Reading where
  /-- The arguments that have been checked, in their order. -/
  given : List Given := []
  /-- The argument that is to be checked next. -/
  pending : Pending := .nothing
  deriving DecidableEq

/-! ## Checking values -/

/-- Check the value of an option.  That the option was given before is found first, then a value
that is no text, then one that is not accepted. -/
def checkOption (given : List Given) (choice : Choice) (value : Bytes) :
    Except UsageError (List Given) :=
  if given.any (·.slot = .option choice) then .error (.repeated choice)
  else
    match Text.ofBytes? value with
    | none => .error .invalidText
    | some text =>
      match (Slot.option choice).accept text with
      | .ok new => .ok (given ++ [new])
      | .error reason => .error (.invalidValue choice text reason)

/-- Check the pending argument. -/
def settle (given : List Given) : Pending → Except UsageError (List Given)
  | .nothing => .ok given
  | .option choice none => .error (.missingValue choice)
  | .option choice (some value) => checkOption given choice value
  | .input value =>
    match Text.ofBytes? value with
    | some text => .ok (given ++ [.input text])
    | none => .error .invalidText

/-- The slots of a reading when an error ends it.  The pending argument counts as given even with
a bad value, but an option without a value does not, and one that is given twice does not at all. -/
def listed (given : List Given) (pending : Pending) : List Entry :=
  let slots := given.map Given.slot
  let all : List Slot :=
    match pending with
    | .nothing => slots
    | .option _ none => slots
    | .option choice (some _) =>
      if .option choice ∈ slots then slots.erase (.option choice) else slots ++ [.option choice]
    | .input _ => slots ++ [.input]
  all.map .slot

namespace Reading

/-! ## Reading arguments -/

/-- Whether there is an input text. -/
def hasInput (reading : Reading) : Bool :=
  reading.given.any (·.slot = .input) ||
    match reading.pending with
    | .input _ => true
    | _ => false

/-- Read the input text. -/
def takeInput (reading : Reading) (value : Bytes) : Except Halt Reading :=
  if reading.hasInput then .error (.usage (.surplus (Text.ofBytesLossy value)))
  else
    match settle reading.given reading.pending with
    | .ok given => .ok ⟨given, .input value⟩
    | .error e => .error (.usage e)

/-- Read an argument after the separator. -/
def stepAfter (reading : Reading) (argument : Bytes) : Except Halt Reading :=
  reading.takeInput argument

/-- Read a word other than the separator. -/
def step (reading : Reading) : Word → Except Halt Reading
  | .separator => .ok reading
  | .plain value =>
    match reading.pending with
    | .option choice none => .ok { reading with pending := .option choice (some value) }
    | _ => reading.takeInput value
  | .option choice attached =>
    match settle reading.given reading.pending, attached with
    | .error e, _ => .error (.usage e)
    | .ok given, none => .ok ⟨given, .option choice none⟩
    | .ok given, some value =>
      match checkOption given choice value with
      | .ok given => .ok ⟨given, .nothing⟩
      | .error e => .error (.usage e)
  | .flag flag none =>
    match settle reading.given reading.pending with
    | .ok _ => .error flag.halt
    | .error e => .error (.usage e)
  | .flag flag (some value) =>
    .error (.usage (.unneededValue flag (Text.ofBytesLossy value) reading.given.isEmpty))
  | .unknownLong name =>
    .error (.usage (.unknownLong name (listed reading.given reading.pending)))
  | .unknownShort name => .error (.usage (.unknownShort name))

/-- Read the arguments after the separator. -/
def readAfter (reading : Reading) : List Bytes → Except Halt Reading
  | [] => .ok reading
  | argument :: arguments =>
    match reading.stepAfter argument with
    | .ok reading => reading.readAfter arguments
    | .error halt => .error halt

/-- Read arguments up to the separator, and those after it. -/
def read (reading : Reading) : List Bytes → Except Halt Reading
  | [] => .ok reading
  | argument :: arguments =>
    let word := Word.ofArgument argument
    if word = .separator then reading.readAfter arguments
    else
      match reading.step word with
      | .ok reading => reading.read arguments
      | .error halt => .error halt

end Reading

/-- Read all arguments, and check the last one. -/
def Reading.finish (reading : Reading) (arguments : List Bytes) : Except Halt (List Given) :=
  match reading.read arguments with
  | .error halt => .error halt
  | .ok last =>
    match settle last.given last.pending with
    | .ok given => .ok given
    | .error e => .error (.usage e)

/-! ## The program's name -/

/-- The name that messages use when the program is not called by a path with a name. -/
def defaultName : String := "sendkeys"

/-- The last part of a path, where it is a name and not a place in the tree. -/
def fileName? (path : Bytes) : Option Bytes :=
  let parts := (path.splitOn 0x2f).filter fun part => part ≠ [] && part ≠ Text.bytesOf "."
  match parts.getLast? with
  | some part => if part = Text.bytesOf ".." then none else some part
  | none => none

/-- The name that messages use for a program called by this path. -/
def programName (path : Option Bytes) : String :=
  match (path.bind fileName?).bind Text.ofBytes? with
  | some name => Text.visible name
  | none => defaultName

/-- The reader of a program called by this path. -/
def usualReader (path : Option Bytes) : Reader where
  resume given arguments :=
    (Reading.finish ⟨given, .nothing⟩ arguments).mapError (Halt.stop (programName path))

end MonitorKeys.Arguments
