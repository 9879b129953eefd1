import MonitorKeys.Regex

/-!
# Scripts for editing a stream of lines

A script of `sed` is a list of commands, each of which can be restricted to lines by addresses.
Blocks and jumps refer to commands by their places in the list.
-/

namespace MonitorKeys.Shell.Tool.Sed

/-- A line that is named by its number or by what it holds.  An expression that is missing is the
one that was used last. -/
inductive Address where
  | line (n : Nat)
  | last
  | fits (r : Option Regex)
  /-- Every line with this distance from the first one. -/
  | every (first step : Nat)
  deriving Repr

/-- Where a range of lines ends. -/
inductive RangeEnd where
  | at (a : Address)
  /-- So many lines after its start. -/
  | after (n : Nat)
  /-- At the next line whose number is a multiple. -/
  | multiple (n : Nat)
  deriving Repr

/-- How the case of letters is changed in a replacement. -/
inductive CaseChange where
  | keep
  | upper
  | lower
  | upperNext
  | lowerNext
  deriving DecidableEq, Repr

/-- A part of the text that takes the place of a match. -/
inductive Piece where
  | text (s : String)
  | group (n : Nat)
  | change (c : CaseChange)
  deriving Repr

/-- A substitution. -/
structure Substitution where
  regex : Option Regex
  pieces : List Piece
  /-- The number of the first match that is replaced. -/
  first : Nat := 1
  all : Bool := false
  prints : Nat := 0
  runs : Bool := false
  file : Option String := none
  deriving Repr

/-- What a command does. -/
inductive Action where
  /-- The commands of a block follow, up to a place. -/
  | block (stop : Nat)
  | nothing
  | append (text : String)
  | insert (text : String)
  | change (text : String)
  | jump (target : Nat)
  /-- A jump if a substitution has been made, or only if not. -/
  | jumpIf (made : Bool) (target : Nat)
  | delete
  | deleteFirst
  | run (command : String)
  | name
  | get
  | getAppend
  | hold
  | holdAppend
  | exchange
  | list (width : Option Nat)
  | next
  | nextAppend
  | print
  | printFirst
  | quit (status : Nat) (silent : Bool)
  | readFile (path : String)
  | readLine (path : String)
  | substitute (s : Substitution)
  | write (path : String)
  | writeFirst (path : String)
  | replace (pairs : List (Char × Char))
  | zap
  | number
  deriving Repr

/-- A command with its addresses. -/
structure Command where
  first : Option Address := none
  second : Option RangeEnd := none
  negated : Bool := false
  /-- Whether the range can end where it starts before the first line. -/
  early : Bool := false
  action : Action
  deriving Repr

/-- A script. -/
structure Script where
  commands : Array Command
  /-- Whether lines are printed only where a command says so. -/
  silent : Bool

end MonitorKeys.Shell.Tool.Sed
