import MonitorKeys.Log.Pattern.Form
import MonitorKeys.Text.Blank

/-!
# Readers of patterns

A reader goes through the characters of a pattern and stops at the first mistake.  Blanks and
comments are skipped between characters where a flag asks for that.
-/

namespace MonitorKeys.Log.Node

/-- How far a pattern has been read. -/
structure Progress where
  place : Nat := 0
  /-- Whether blanks and comments are skipped. -/
  spaced : Bool := false
  /-- The names of groups, and where they stand. -/
  names : List (String × Span) := []

/-- A reader of a part of a pattern. -/
abbrev Reader := ReaderT (Array Char) (StateT Progress (Except Mistake))

/-- The character that comes next. -/
def peek? : Reader (Option Char) := do
  return (← read)[(← get).place]?

/-- Whether the next character is this one. -/
def nextIs (c : Char) : Reader Bool := do
  return (← peek?) == some c

/-- The place that has been reached. -/
def here : Reader Nat := do
  return (← get).place

/-- The stretch of the next character. -/
def spanHere : Reader Span := do
  let place ← here
  return ⟨place, place + 1⟩

/-- Stop with a mistake. -/
def fail {α : Type} (complaint : Complaint) (start stop : Nat) : Reader α :=
  throw ⟨complaint, ⟨start, stop⟩, none⟩

/-- Stop with a mistake at the place that has been reached. -/
def failHere {α : Type} (complaint : Complaint) : Reader α := do
  fail complaint (← here) (← here)

/-- Stop with a mistake about the next character. -/
def failNext {α : Type} (complaint : Complaint) : Reader α := do
  fail complaint (← here) ((← here) + 1)

/-- Pass the next character; whether there is one more. -/
def bump : Reader Bool := do
  if (← peek?).isSome then modify fun p => { p with place := p.place + 1 }
  return (← peek?).isSome

/-- The place after the blanks and comments from a place on. -/
def skipped (pattern : Array Char) : Nat → Nat → Bool → Nat
  | 0, place, _ => place
  | n + 1, place, inComment =>
    match pattern[place]? with
    | none => place
    | some c =>
      if inComment then skipped pattern n (place + 1) (c != '\n')
      else if Text.isBlank c then skipped pattern n (place + 1) false
      else if c == '#' then skipped pattern n (place + 1) true
      else place

/-- Pass blanks and comments where they do not count. -/
def bumpSpace : Reader Unit := do
  let p ← get
  if p.spaced then
    let pattern ← read
    set { p with place := skipped pattern pattern.size p.place false }

/-- Pass the next character and the blanks after it; whether there is one more. -/
def bumpOn : Reader Bool := do
  if ← bump then bumpSpace
  return (← peek?).isSome

/-- Whether a text comes next. -/
def comesNext (text : String) : Reader Bool := do
  let place ← here
  return ((← read).extract place (place + text.length)).toList == text.toList

/-- Pass a text where it comes next. -/
def bumpIf (text : String) : Reader Bool := do
  if ← comesNext text then
    modify fun p => { p with place := p.place + text.length }
    return true
  return false

/-- The next character after blanks and comments that would be skipped behind the next one. -/
def peekBeyond? : Reader (Option Char) := do
  let p ← get
  let pattern ← read
  let place := if p.spaced then skipped pattern pattern.size (p.place + 1) false else p.place + 1
  return pattern[place]?

/-- The characters of the pattern between two places. -/
def textBetween (start stop : Nat) : Reader String := do
  return String.ofList ((← read).extract start stop).toList

end MonitorKeys.Log.Node
