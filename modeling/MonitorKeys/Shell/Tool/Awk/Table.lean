import Std.Data.HashMap
import MonitorKeys.Shell.Tool.Awk.Number

/-!
# Tables of the pattern language

A table holds values under texts.  A loop over a table goes through its keys in an order that
depends on how they were used: the texts stand in lists that a hash of each text chooses, and in a
list the one that was asked for last comes first.  Whole numbers that are used as keys have lists of
their own, and enter those of the texts only when a text is looked for.
-/

namespace MonitorKeys.Shell.Tool.Awk

/-- A value: nothing yet, a number, a text, or a text from outside, which counts as a number where it
looks like one. -/
inductive Value where
  | unset
  | number (x : Float)
  | text (s : String)
  | given (s : String)

/-- A key of a table. -/
inductive Key where
  | number (n : Int)
  | text (s : String)

/-- The text of a key. -/
def Key.name : Key → String
  | number n => toString n
  | text s => s

/-- A table with the lists that its keys stand in. -/
structure Table where
  values : Std.HashMap String Value := {}
  texts : Array (List String) := Array.replicate 64 []
  numbers : Array (List Int) := Array.replicate 64 []
  /-- Whether all keys stand in the lists of the texts. -/
  hasTexts : Bool := false

namespace Table

/-- The hash of a text. -/
def hashOf (s : String) : UInt32 :=
  s.foldl (fun h c => (h ^^^ UInt32.ofNat c.toNat) * 16777619) 2166136261

/-- The list that a text belongs to. -/
def textList (s : String) : Nat :=
  (hashOf s).toNat % 64

/-- The list that a number belongs to. -/
def numberList (n : Int) : Nat :=
  (n % 64).toNat

/-- Move a text to the start of its list, or put it there. -/
def raiseText (t : Table) (s : String) : Table :=
  { t with texts := t.texts.modify (textList s) fun l => s :: l.erase s }

/-- Move a number to the start of its list, or put it there. -/
def raiseNumber (t : Table) (n : Int) : Table :=
  { t with numbers := t.numbers.modify (numberList n) fun l => n :: l.erase n }

/-- Put all numbers into the lists of the texts. -/
def withTexts (t : Table) : Table :=
  if t.hasTexts then t
  else
    let all := t.numbers.toList.flatMap id
    { all.foldl (fun t n => raiseText t (toString n)) t with hasTexts := true }

/-- Look for a key, which moves to the start of its list, and the value under it. -/
def find? (t : Table) (key : Key) : Option Value × Table :=
  match key with
  | .text s =>
    let t := t.withTexts
    match t.values[s]? with
    | some v => (some v, t.raiseText s)
    | none => (none, t)
  | .number n =>
    let s := toString n
    match t.values[s]? with
    | none => (none, t)
    | some v =>
      let isListed := (t.numbers.getD (numberList n) []).contains n
      let t := if isListed || !t.hasTexts then t else t.raiseText s
      (some v, t.raiseNumber n)

/-- Put a value under a key that has been looked for. -/
def put (t : Table) (key : Key) (v : Value) : Table :=
  let s := key.name
  if t.values.contains s then { t with values := t.values.insert s v }
  else
    let t := { t with values := t.values.insert s v }
    match key with
    | .text s => t.raiseText s
    | .number n => (if t.hasTexts then t.raiseText s else t).raiseNumber n

/-- Take a key out. -/
def erase (t : Table) (key : Key) : Table :=
  let (found, t) := t.find? key
  if found.isNone then t
  else
    let s := key.name
    let values := t.values.erase s
    if values.isEmpty then {}
    else
      { t with
        values
        texts := t.texts.modify (textList s) (·.erase s)
        numbers := match Raw.int? s with
          | some n => t.numbers.modify (numberList n) (·.erase n)
          | none => t.numbers }

/-- The keys in the order of a loop. -/
def keys (t : Table) : List String × Table :=
  let t := t.withTexts
  (t.texts.toList.flatMap id, t)

/-- The table of some values under the numbers from one on. -/
def ofList (vs : List Value) : Table :=
  (vs.zipIdx 1).foldl (fun t (v, i) => t.put (.number i) v) {}

end Table

end MonitorKeys.Shell.Tool.Awk
