import MonitorKeys.Delay
import MonitorKeys.Text.Utf8

/-!
# Command lines

A command line can give three values: `Slot` are what they are for.  Two of them are options, which
have a short and a long name, and the third one is the input text.  A value that is accepted for its
slot is a `Given`, and the values of a command line make up an `Invocation`.

How the arguments of a command line are taken apart is left open here: a `Reader` is any function
that goes on reading where some values have been given before.  It may also stop with a `Stop`, and
then the program does nothing but print its text.
-/

namespace MonitorKeys

open Text (Bytes)

/-- What an accepted command line asks for. -/
structure Invocation where
  /-- The shell command that gets the key commands. -/
  command : Option String
  /-- The pause after each key. -/
  delay : Option Delay
  /-- The text to type. -/
  input : Option String
  deriving DecidableEq

namespace Invocation

/-- The pause after each key in nanoseconds, a tenth of a second where none is given. -/
def delayNanoseconds (invocation : Invocation) : Nat :=
  (invocation.delay.getD .tenthSecond).nanoseconds

/-- The text to type, nothing where none is given. -/
def inputText (invocation : Invocation) : String :=
  invocation.input.getD ""

end Invocation

namespace Arguments

/-! ## Slots -/

/-- The byte of a hyphen. -/
def hyphen : UInt8 := 0x2d

/-- The byte of an equals sign. -/
def equals : UInt8 := 0x3d

/-- An option that takes a value. -/
inductive Choice where
  | command
  | delay
  deriving DecidableEq, Repr

namespace Choice

/-- The long name of an option, without its hyphens. -/
def name : Choice → String
  | command => "command"
  | delay => "delay"

/-- The long name of an option. -/
def long : Choice → Bytes
  | command => Text.bytesOf "--command"
  | delay => Text.bytesOf "--delay"

/-- The short name of an option. -/
def short : Choice → Bytes
  | command => Text.bytesOf "-c"
  | delay => Text.bytesOf "-d"

end Choice

/-- What a value is for. -/
inductive Slot where
  | option (choice : Choice)
  | input
  deriving DecidableEq, Repr

/-- What messages call a value. -/
def Slot.valueName : Slot → String
  | option .command => "COMMAND"
  | option .delay => "SECONDS"
  | input => "STRING"

/-- What the help text says about a value. -/
def Slot.help : Slot → String
  | option .command => "Pipe each sendkey command to this command, individually"
  | option .delay => "Delay SECONDS after each key [default: 0.1]"
  | input => "Text to type; may contain <name> escapes"

/-! ## Values -/

/-- An accepted value. -/
inductive Given where
  | command (text : String)
  | delay (delay : Delay)
  | input (text : String)
  deriving DecidableEq

/-- What an accepted value is for. -/
def Given.slot : Given → Slot
  | command _ => .option .command
  | delay _ => .option .delay
  | input _ => .input

/-- Accept a text for a slot.  Any text is a command and any text can be typed. -/
def Slot.accept : Slot → String → Except InvalidDelay Given
  | option .command, text => .ok (.command text)
  | option .delay, text => (Delay.parse text).map .delay
  | input, text => .ok (.input text)

/-- The shell command among accepted values. -/
def command? (given : List Given) : Option String :=
  given.findSome? fun
    | .command text => some text
    | _ => none

/-- The delay among accepted values. -/
def delay? (given : List Given) : Option Delay :=
  given.findSome? fun
    | .delay delay => some delay
    | _ => none

/-- The input text among accepted values. -/
def input? (given : List Given) : Option String :=
  given.findSome? fun
    | .input text => some text
    | _ => none

/-- The invocation of accepted values. -/
def invocation (given : List Given) : Invocation :=
  ⟨command? given, delay? given, input? given⟩

/-! ## Readers -/

/-- Why reading a command line ends without an invocation. -/
inductive Stop where
  /-- A text is printed that the command line asks for. -/
  | answered (text : String)
  /-- The command line is not accepted, for this reason. -/
  | refused (message : String)
  deriving DecidableEq, Repr

/-- The exit status of a program that stops without an invocation. -/
def Stop.status : Stop → Nat
  | answered _ => 0
  | refused _ => 2

/-- A way of reading command lines. -/
structure Reader where
  /-- All values that are given in the end, where some have been given before these arguments. -/
  resume : List Given → List Bytes → Except Stop (List Given)

/-- Read the arguments after the program's name. -/
def Reader.parse (reader : Reader) (arguments : List Bytes) : Except Stop Invocation :=
  (reader.resume [] arguments).map invocation

end Arguments

end MonitorKeys
