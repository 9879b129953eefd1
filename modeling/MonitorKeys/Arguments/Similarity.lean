/-!
# How similar two names are

A message about an unknown name suggests the known name that is most like it.  Likeness is the Jaro
similarity: two characters match when they are equal and not too far apart, and the similarity is
the mean of the share of matched characters in each name and of the share of matches that are in
the same order.
-/

namespace MonitorKeys.Arguments

/-- The first index in `indices` at which `b` has the character `c` and which is not yet used. -/
def matchIndex? (c : Char) (b : List Char) (used : List Nat) (low high : Nat) : Option Nat :=
  (List.range' low (high - low)).find? fun j => b[j]? == some c && !used.contains j

/-- The pairs of matching indices, in the order of the first name.  Each character of the first
name, from the left, takes the first free equal one within `reach`. -/
def matching (b : List Char) (reach : Nat) : List Char → Nat → List Nat → List (Nat × Nat)
  | [], _, _ => []
  | c :: cs, i, used =>
    match matchIndex? c b used (i - reach) (min b.length (i + reach + 1)) with
    | some j => (i, j) :: matching b reach cs (i + 1) (j :: used)
    | none => matching b reach cs (i + 1) used

/-- The Jaro similarity of two names, between 0 and 1. -/
def similarity (a b : List Char) : Float :=
  if a = [] && b = [] then 1
  else
    let pairs := matching b (max a.length b.length / 2 - 1) a 0 []
    let found := pairs.length
    let inOrder := (pairs.map (·.2)).mergeSort
    let displaced := (pairs.zip inOrder).countP fun (pair, j) => a[pair.1]? != b[j]?
    if found = 0 then 0
    else
      (found.toFloat / a.length.toFloat + found.toFloat / b.length.toFloat
        + (found - displaced / 2).toFloat / found.toFloat) / 3

/-- The known name that is most like a given one, the later of two that are equally so, where one
is like it at all. -/
def mostSimilar? (name : String) (known : List String) : Option String :=
  let rated := known.map fun k => (similarity name.toList k.toList, k)
  ((rated.filter fun (likeness, _) => 0.7 < likeness).foldl
    (fun best (likeness, k) =>
      match best with
      | some (highest, _) => if highest ≤ likeness then some (likeness, k) else best
      | none => some (likeness, k))
    none).map (·.2)

end MonitorKeys.Arguments
