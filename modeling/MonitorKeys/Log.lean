/-!
# Log records and their filter

A record has a level, the part of the program that it comes from, and a text.  A filter is any
choice of records.  How it is written in a setting is left open here, and `Log.Setting` is the usual
way.
-/

namespace MonitorKeys.Log

/-! ## Records -/

/-- How important a record is. -/
inductive Level where
  | error
  | warn
  | info
  | debug
  | trace
  deriving DecidableEq, Repr

namespace Level

/-- The place of a level, from the most important one up. -/
def rank : Level → Nat
  | error => 1
  | warn => 2
  | info => 3
  | debug => 4
  | trace => 5

/-- The name of a level in a log line. -/
def name : Level → String
  | error => "ERROR"
  | warn => "WARN"
  | info => "INFO"
  | debug => "DEBUG"
  | trace => "TRACE"

end Level

/-- The part of the program that a record comes from. -/
inductive Target where
  | program
  | sender
  | tokenizer
  deriving DecidableEq, Repr

/-- The name of a target in a log line. -/
def Target.name : Target → String
  | program => "sendkeys"
  | sender => "sendkeys::sender"
  | tokenizer => "sendkeys::keys::tokenizer"

/-- One log record. -/
structure Record where
  level : Level
  target : Target
  text : String
  deriving DecidableEq, Repr

/-- The lines of a record: level and target in front, and further lines of the text indented. -/
def Record.lines (record : Record) (time : String) : String :=
  let level := record.level.name
  let padded := level ++ String.ofList (List.replicate (5 - level.length) ' ')
  let text := record.text.toList.flatMap fun c => if c = '\n' then "\n    ".toList else [c]
  "[" ++ time ++ " " ++ padded ++ " " ++ record.target.name ++ "] " ++ String.ofList text ++ "\n"

/-! ## Filters -/

/-- The highest level that is logged; `none` logs nothing. -/
abbrev Threshold := Option Level

/-- Whether a threshold allows a level. -/
def Threshold.allows : Threshold → Level → Bool
  | none, _ => false
  | some highest, level => level.rank ≤ highest.rank

/-- Which records are logged. -/
structure Filter where
  /-- Whether a record is logged. -/
  admits : Record → Bool

/-- The filter that logs all records up to a level. -/
def Filter.upTo (threshold : Threshold) : Filter :=
  ⟨fun record => threshold.allows record.level⟩

end MonitorKeys.Log
