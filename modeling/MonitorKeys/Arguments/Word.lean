import MonitorKeys.Arguments

/-!
# Words of the command line

Each argument before the separator `--` has a meaning of its own, whatever stands around it: it
is a known option or flag, in its long or its short spelling and with or without an attached value,
or an unknown one, or plain.  A lone `-` is plain.

Arguments are bytes, because nothing says that they are UTF-8.
-/

namespace MonitorKeys.Arguments

open Text (Bytes)

/-- A flag, which takes no value. -/
inductive Flag where
  | help
  | version
  deriving DecidableEq, Repr

/-- The long name of a flag, without its hyphens. -/
def Flag.name : Flag → String
  | help => "help"
  | version => "version"

/-- What one argument says by itself. -/
inductive Word where
  /-- What follows is no option. -/
  | separator
  /-- An option, with the value attached to it. -/
  | option (choice : Choice) (attached : Option Bytes)
  /-- A flag, with a value attached to it that it does not take. -/
  | flag (flag : Flag) (attached : Option Bytes)
  /-- A long name that is not known. -/
  | unknownLong (name : String)
  /-- A short name that is not known, as messages show it. -/
  | unknownShort (name : String)
  /-- A value or the input text. -/
  | plain (bytes : Bytes)
  deriving DecidableEq, Repr

namespace Word

/-- The part of an argument before its first equals sign. -/
def beforeEquals (bytes : Bytes) : Bytes :=
  bytes.takeWhile (· ≠ equals)

/-- The part of an argument after its first equals sign, where it has one. -/
def afterEquals? (bytes : Bytes) : Option Bytes :=
  (bytes.dropWhile (· ≠ equals)).tail?

/-- The word of an argument that begins with two hyphens, given what follows these. -/
def ofLong (bytes : Bytes) : Word :=
  let name := beforeEquals bytes
  let value := afterEquals? bytes
  if name = Text.bytesOf (Choice.name .command) then option .command value
  else if name = Text.bytesOf (Choice.name .delay) then option .delay value
  else if name = Text.bytesOf (Flag.name .help) then flag .help value
  else if name = Text.bytesOf (Flag.name .version) then flag .version value
  else unknownLong (Text.ofBytesLossy name)

/-- The value attached to a short option: all that follows it, less one equals sign in front. -/
def attachedValue? : Bytes → Option Bytes
  | [] => none
  | b :: bytes => some (if b = equals then bytes else b :: bytes)

/-- The word of an argument that begins with one hyphen, given what follows it.  The first
character decides: what follows an option is its value, and a flag acts at once. -/
def ofShort (bytes : Bytes) : Word :=
  match Text.firstChar? bytes with
  | some (c, rest) =>
    if c = 'c' then option .command (attachedValue? rest)
    else if c = 'd' then option .delay (attachedValue? rest)
    else if c = 'h' then flag .help none
    else if c = 'V' then flag .version none
    else unknownShort (String.ofList ['-', c])
  | none => unknownShort ("-" ++ Text.ofBytesLossy bytes)

/-- What an argument says. -/
def ofArgument : Bytes → Word
  | a :: b :: rest =>
    if a = hyphen then
      if b = hyphen then (if rest = [] then separator else ofLong rest) else ofShort (b :: rest)
    else plain (a :: b :: rest)
  | bytes => plain bytes

end Word

end MonitorKeys.Arguments
