import MonitorKeys.CharSet

/-!
# Regular expressions

Filters of log records and several text programs look for a regular expression.  This file holds
the expressions themselves and what they match; how they are written is a matter of the reader that
makes them.

* `Regex.ends` lists the places where a match that begins at a given place can end, the longest
  match first.
* `Regex.find?` is the first match from a place on, and of those that begin there the longest.
-/

namespace MonitorKeys

/-- A condition on a place between two characters. -/
inductive Anchor where
  | textStart
  | textEnd
  | lineStart
  | lineEnd
  /-- One neighbour belongs to a word and the other does not. -/
  | wordEdge
  /-- Both neighbours belong to words, or none. -/
  | noWordEdge
  | wordStart
  | wordEnd
  /-- No word ends here or goes on. -/
  | noWordBefore
  /-- No word begins here or goes on. -/
  | noWordAfter
  deriving DecidableEq, Repr

/-- Whether a condition holds between two characters; there is none beyond the ends of a text. -/
def Anchor.holds (anchor : Anchor) (before after : Option Char) : Bool :=
  let wordBefore := before.any CharSet.wordChars.contains
  let wordAfter := after.any CharSet.wordChars.contains
  match anchor with
  | textStart => before.isNone
  | textEnd => after.isNone
  | lineStart => before.all (· == '\n')
  | lineEnd => after.all (· == '\n')
  | wordEdge => wordBefore != wordAfter
  | noWordEdge => wordBefore == wordAfter
  | wordStart => !wordBefore && wordAfter
  | wordEnd => wordBefore && !wordAfter
  | noWordBefore => !wordBefore
  | noWordAfter => !wordAfter

/-- A regular expression. -/
inductive Regex where
  /-- The empty text. -/
  | empty
  /-- One character of a set. -/
  | one (set : CharSet)
  /-- One after the other. -/
  | seq (first second : Regex)
  /-- One or the other. -/
  | alt (first second : Regex)
  /-- At least and at most so many times. -/
  | times (body : Regex) (least : Nat) (most : Option Nat)
  /-- A part whose place is kept under a number. -/
  | group (number : Nat) (body : Regex)
  /-- The text that a group has matched, in any case where that does not count. -/
  | again (number : Nat) (anyCase : Bool)
  /-- A place where a condition holds. -/
  | anchor (condition : Anchor)
  deriving DecidableEq, Repr

namespace Regex

/-- Whether an expression asks for the text of a group. -/
def looksBack : Regex → Bool
  | empty | one _ | anchor _ => false
  | seq a b | alt a b => a.looksBack || b.looksBack
  | times a _ _ | group _ a => a.looksBack
  | again _ _ => true

/-- How far a match has come: a place, and the places of groups, the last one first. -/
structure Spot where
  place : Nat
  groups : List (Nat × Nat × Nat) := []
  deriving DecidableEq, Repr

/-- Keep the first one of spots that follow each other and stand at the same place, or that are
equal where the groups count. -/
def thin (groupsCount : Bool) (spots : List Spot) : List Spot :=
  (spots.foldl
    (fun kept s =>
      match kept with
      | t :: _ =>
        if (if groupsCount then s = t else s.place = t.place) then kept else s :: kept
      | [] => [s])
    []).reverse

/-- Spots with the longest matches first, each place once. -/
def ordered (groupsCount : Bool) (spots : List Spot) : List Spot :=
  thin groupsCount (spots.mergeSort fun a b => b.place ≤ a.place)

/-- The spots after exactly so many steps. -/
def stepped (groupsCount : Bool) (step : Spot → List Spot) : Nat → List Spot → List Spot
  | 0, spots => spots
  | n + 1, spots =>
    if spots.isEmpty then [] else stepped groupsCount step n (ordered groupsCount (spots.flatMap step))

/-- The spots after at most so many steps, given those that were found and those of them that were
found last. -/
def reached (groupsCount : Bool) (step : Spot → List Spot) :
    Nat → List Spot → List Spot → List Spot
  | 0, found, _ => found
  | n + 1, found, last =>
    let fresh := (ordered groupsCount (last.flatMap step)).filter fun s =>
      !found.any fun t => if groupsCount then s = t else s.place = t.place
    if fresh.isEmpty then found else reached groupsCount step n (found ++ fresh) fresh

/-- How many characters from a place on are in a set, at most so many. -/
def runLength (text : Array Char) (set : CharSet) : Nat → Nat → Nat → Nat
  | 0, _, count => count
  | n + 1, place, count =>
    match text[place]? with
    | some c => if set.contains c then runLength text set n (place + 1) (count + 1) else count
    | none => count

/-- Whether two characters are the same, or differ in case only where that does not count. -/
def sameChar (anyCase : Bool) (a b : Char) : Bool :=
  a == b || anyCase && a.toLower == b.toLower

/-- The spots where a match from a spot on can end, the longest match first. -/
def ends (text : Array Char) (groupsCount : Bool) : Regex → Spot → List Spot
  | empty, s => [s]
  | one set, s =>
    match text[s.place]? with
    | some c => if set.contains c then [{ s with place := s.place + 1 }] else []
    | none => []
  | seq a b, s =>
    match ends text groupsCount a s with
    | [t] => ends text groupsCount b t
    | spots => ordered groupsCount (spots.flatMap (ends text groupsCount b))
  | alt a b, s => ordered groupsCount (ends text groupsCount a s ++ ends text groupsCount b s)
  | times (one set) least most, s =>
    let left := text.size - s.place
    let count := runLength text set (min left (most.getD left)) s.place 0
    ((List.range (count + 1)).drop least).reverse.map fun n => { s with place := s.place + n }
  | times a least most, s =>
    let step := ends text groupsCount a
    let first := stepped groupsCount step least [s]
    let more := min (text.size + 1) (most.elim (text.size + 1) (· - least))
    ordered groupsCount (reached groupsCount step more first first)
  | group number a, s =>
    (ends text groupsCount a s).map fun t =>
      { t with groups := (number, s.place, t.place) :: t.groups.filter (·.1 != number) }
  | again number anyCase, s =>
    match s.groups.lookup number with
    | some (start, stop) =>
      let length := stop - start
      if s.place + length ≤ text.size &&
          (List.range length).all fun i =>
            sameChar anyCase (text.getD (start + i) ' ') (text.getD (s.place + i) ' ') then
        [{ s with place := s.place + length }]
      else []
    | none => []
  | anchor condition, s =>
    let before := if s.place = 0 then none else text[s.place - 1]?
    if condition.holds before text[s.place]? then [s] else []

/-- A match in a text: where it begins and ends, and where its groups do. -/
structure Match where
  start : Nat
  stop : Nat
  groups : List (Nat × Nat × Nat)
  deriving DecidableEq, Repr

/-- The longest match that begins at a place. -/
def matchAt? (r : Regex) (text : Array Char) (start : Nat) : Option Match :=
  (r.ends text r.looksBack ⟨start, []⟩).head?.map fun s => ⟨start, s.place, s.groups⟩

/-- The first match among those that begin at a place or at one of the next so many. -/
def findWithin? (r : Regex) (text : Array Char) : Nat → Nat → Option Match
  | 0, start => r.matchAt? text start
  | n + 1, start =>
    match r.matchAt? text start with
    | some found => some found
    | none => findWithin? r text n (start + 1)

/-- The first match from a place on. -/
def find? (r : Regex) (text : Array Char) (start : Nat := 0) : Option Match :=
  if start ≤ text.size then r.findWithin? text (text.size - start) start else none

/-- Whether there is a match in a text. -/
def isIn (r : Regex) (text : List Char) : Bool :=
  (r.find? text.toArray).isSome

/-- The text of a group of a match; the whole match is group zero. -/
def Match.text? (m : Match) (text : Array Char) (number : Nat) : Option (List Char) :=
  if number = 0 then some (text.extract m.start m.stop).toList
  else (m.groups.lookup number).map fun (start, stop) => (text.extract start stop).toList

end Regex

end MonitorKeys
