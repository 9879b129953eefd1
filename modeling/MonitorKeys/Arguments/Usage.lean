import MonitorKeys.Arguments.Similarity
import MonitorKeys.Arguments.Word
import MonitorKeys.Delay
import MonitorKeys.Text.Visible

/-!
# Usage errors and their messages

`UsageError` has one case for each reason why a command line is not accepted, and
`UsageError.message` gives the text for it.  Most messages have a usage line.  For a bad long name
this line lists what was given so far, for a flag with a value it shows the flag, and for the
others it is the general one, or it is left out.

`helpText` and `versionText` are what the two flags print.
-/

namespace MonitorKeys.Arguments

/-- Something that a usage line can list. -/
inductive Entry where
  | slot (slot : Slot)
  | flag (flag : Flag)
  deriving DecidableEq, Repr

/-- An option as messages show it. -/
def Choice.shown (choice : Choice) : String :=
  "--" ++ choice.name ++ " <" ++ (Slot.option choice).valueName ++ ">"

/-- A flag as messages show it. -/
def Flag.shown (flag : Flag) : String :=
  "--" ++ flag.name

/-- An option or a flag as usage lines show it; the input text has a place of its own. -/
def Entry.shown? : Entry → Option String
  | slot (.option choice) => some choice.shown
  | slot .input => none
  | flag f => some f.shown

/-- The general usage line. -/
def generalUsage (program : String) : String :=
  program ++ " [OPTIONS] [" ++ Slot.input.valueName ++ "]"

/-- The usage line that lists what was given; the general one where nothing was. -/
def usageOf (program : String) (given : List Entry) : String :=
  if given = [] then generalUsage program
  else
    let value := Slot.input.valueName
    String.join (program :: (given.filterMap Entry.shown?).map (" " ++ ·))
      ++ if .slot .input ∈ given then " <" ++ value ++ ">" else " [" ++ value ++ "]"

/-- The usage line of a flag by itself, or in front of any one of the arguments that it could stand
with. -/
def flagUsage (program : String) (flag : Flag) (alone : Bool) : String :=
  let value := Slot.input.valueName
  let others :=
    if alone then "[" ++ value ++ "]"
    else "<" ++ Choice.command.shown ++ "|" ++ Choice.delay.shown ++ "|" ++ value ++ ">"
  program ++ " " ++ flag.shown ++ " " ++ others

/-- Why a command line is not accepted. -/
inductive UsageError where
  /-- There is no such long name; `given` is what was given before it. -/
  | unknownLong (name : String) (given : List Entry)
  /-- There is no such short name. -/
  | unknownShort (name : String)
  /-- There is no place for another argument. -/
  | surplus (argument : String)
  /-- An option has no value. -/
  | missingValue (choice : Choice)
  /-- The value of an option is not accepted. -/
  | invalidValue (choice : Choice) (value : String) (reason : InvalidDelay)
  /-- An option is given twice. -/
  | repeated (choice : Choice)
  /-- A flag has a value; `alone` says that nothing was accepted before it. -/
  | unneededValue (flag : Flag) (value : String) (alone : Bool)
  /-- A value or the input text is not UTF-8. -/
  | invalidText
  deriving DecidableEq, Repr

/-! ## Suggestions -/

/-- The known long names, and what each adds to a usage line. -/
def knownNames : List (String × Entry) :=
  [Choice.command, .delay].map (fun choice => (choice.name, .slot (.option choice)))
    ++ [Flag.help, .version].map fun flag => (flag.name, .flag flag)

/-- The known long name that an unknown one is probably meant to be. -/
def suggestion? (name : String) : Option (String × Entry) :=
  (mostSimilar? name (knownNames.map (·.1))).bind fun known =>
    (knownNames.lookup known).map (known, ·)

/-- The tip for an argument that looks like a flag but may be meant as a value. -/
def valueTip (argument : String) : String :=
  "to pass '" ++ argument ++ "' as a value, use '-- " ++ argument ++ "'"

/-- A list with a member added at its end, unless it is there. -/
def Entry.add (given : List Entry) (entry : Entry) : List Entry :=
  if entry ∈ given then given else given ++ [entry]

/-! ## Messages -/

/-- What leads over to the flag at the end of every message. -/
def pointer : String :=
  "\n\nFor more information, try '"

/-- The flag at the end of every message, and what closes the message. -/
def pointed : String :=
  Flag.help.shown ++ "'.\n"

/-- The layout of messages: the error, then a tip and a usage line where there are such, and where
to find more. -/
def layout (text : String) (tip usage : Option String) : String :=
  "error: " ++ text
    ++ (tip.map fun t => "\n\n  tip: " ++ t).getD ""
    ++ (usage.map fun u => "\n\nUsage: " ++ u).getD ""
    ++ pointer ++ pointed

/-- The text of the error about an argument that has no place. -/
def unexpected (argument : String) : String :=
  "unexpected argument '" ++ argument ++ "' found"

namespace UsageError

/-- The message of an error. -/
def message (program : String) : UsageError → String
  | unknownLong name given =>
    let argument := Text.visible ("--" ++ name)
    match suggestion? name with
    | some (known, entry) =>
      layout (unexpected argument) (some ("a similar argument exists: '--" ++ known ++ "'"))
        (some (usageOf program (Entry.add given entry)))
    | none =>
      layout (unexpected argument) (some (valueTip argument)) (some (usageOf program given))
  | unknownShort name =>
    let argument := Text.visible name
    layout (unexpected argument) (some (valueTip argument)) (some (generalUsage program))
  | surplus argument =>
    layout (unexpected (Text.visible argument)) none (some (generalUsage program))
  | missingValue choice =>
    layout ("a value is required for '" ++ choice.shown ++ "' but none was supplied") none none
  | invalidValue choice value reason =>
    -- The reason quotes the value in the style of the text around it, up to the flag at the end.
    "error: invalid value '" ++ Text.visible value ++ "' for '" ++ choice.shown ++ "'"
      ++ Text.visible (": " ++ reason.message ++ pointer) ++ pointed
  | repeated choice =>
    layout ("the argument '" ++ choice.shown ++ "' cannot be used multiple times") none
      (some (generalUsage program))
  | unneededValue flag value alone =>
    layout
      ("unexpected value '" ++ Text.visible value ++ "' for '" ++ flag.shown
        ++ "' found; no more were expected")
      none (some (flagUsage program flag alone))
  | invalidText =>
    layout "invalid UTF-8 was detected in one or more arguments" none
      (some (generalUsage program))

end UsageError

/-! ## Help and version -/

/-- Lines with two columns, the first one as wide as its widest entry. -/
def columns (lines : List (String × String)) : String :=
  let width := (lines.map (·.1.length)).foldl max 0
  String.join (lines.map fun (left, right) =>
    "  " ++ left ++ String.ofList (List.replicate (width + 2 - left.length) ' ') ++ right ++ "\n")

/-- The column of the help text with the names of an option or a flag. -/
def named (short shown : String) : String :=
  short ++ ", " ++ shown

/-- What the help flag prints. -/
def helpText (program : String) : String :=
  "Translate a string to \"sendkey\" commands for the QEMU monitor\n\n"
    ++ "Usage: " ++ generalUsage program ++ "\n\n"
    ++ "Arguments:\n" ++ columns [("[" ++ Slot.input.valueName ++ "]", Slot.input.help)] ++ "\n"
    ++ "Options:\n"
    ++ columns
      [(named "-c" Choice.command.shown, (Slot.option .command).help),
       (named "-d" Choice.delay.shown, (Slot.option .delay).help),
       (named "-h" Flag.help.shown, "Print help"),
       (named "-V" Flag.version.shown, "Print version")]
    ++ "\nSTRING may contain <name> escapes naming monitor keys directly:\n"
    ++ "    <enter> <ret> <tab> <esc> <ctrl-alt-f1> ...\n"
    ++ "    <lt> <gt>   literal '<' and '>'\n"
    ++ "    <wait>      pause one second\n\n"
    ++ "EXAMPLES:\n"
    ++ "    sendkeys 'ls<enter>ls<gt>/dev/null<enter>'\n"
    ++ "    sendkeys -d 0.05 -c 'socat - UNIX-CONNECT:/tmp/qemu-monitor' 'root<enter>'\n\n"
    ++ "Logging goes to stderr and is controlled by RUST_LOG.\n"

/-- What the version flag prints. -/
def versionText : String :=
  "sendkeys 0.1.0\n"

end MonitorKeys.Arguments
