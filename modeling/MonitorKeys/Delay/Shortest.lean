import MonitorKeys.Delay.Binary64

/-!
# The shortest decimal text of a number

A binary64 number is shown by the fewest decimal digits that read back as the same number, and by
the nearest of these texts where there are several.  The text is always positional: it has as many
zeros as it needs and never an exponent.

The numbers that round to a code form an interval, which holds its ends when the code is even.
`Binary64.shortest` looks for the coarsest grid of decimals `10 ^ g` with a point in that interval.
If any point of a grid lies there, so does one of the two neighbours of the value.
-/

namespace MonitorKeys

namespace Binary64

/-! ## Points of a decimal grid

All comparisons multiply through by `2 ^ 1075` and by a power of ten, so they are exact in natural
numbers: a point `p * 10 ^ g` becomes `p * gridStep g`, and a value of `n` half units becomes
`n * gridScale g`. -/

/-- The distance of two neighbours on the grid `10 ^ g`. -/
def gridStep (g : Int) : Nat :=
  2 * unitsPerOne * 10 ^ g.toNat

/-- What a number of half units is multiplied by to be compared on the grid `10 ^ g`. -/
def gridScale (g : Int) : Nat :=
  10 ^ (-g).toNat

/-- Whether the grid point `p * 10 ^ g` is nearest to the value of a positive code. -/
def readsBack (code : Nat) (g : Int) (p : Nat) : Bool :=
  let low := (units (code - 1) + units code) * gridScale g
  let high := (units code + units (code + 1)) * gridScale g
  let point := p * gridStep g
  if code % 2 = 0 then low ≤ point && point ≤ high else low < point && point < high

/-- The point of the grid `10 ^ g` that reads back as a positive code and is nearest to its value,
the upper one of two that are equally near. -/
def gridPoint? (code : Nat) (g : Int) : Option Nat :=
  let value := 2 * units code * gridScale g
  let below := value / gridStep g
  match readsBack code g below, readsBack code g (below + 1) with
  | true, true => some (if 2 * (value % gridStep g) < gridStep g then below else below + 1)
  | true, false => some below
  | false, true => some (below + 1)
  | false, false => none

/-- The exponents of the grids, from above the largest value down to seventeen digits of the
smallest one. -/
def gridExponents : List Int :=
  (List.range 652).map fun i : Nat => (309 : Int) - i

/-- The digits and the exponent of the shortest decimal that reads back as a positive code. -/
def shortest (code : Nat) : Nat × Int :=
  (gridExponents.findSome? fun g => (gridPoint? code g).map (·, g)).getD (0, 0)

/-! ## The text -/

/-- The positional text of `digits * 10 ^ exponent`. -/
def positional (digits : Nat) (exponent : Int) : List Char :=
  let ds := Nat.toDigits 10 digits
  let places := (-exponent).toNat
  if places = 0 then ds ++ List.replicate exponent.toNat '0'
  else if places < ds.length then
    ds.take (ds.length - places) ++ '.' :: ds.drop (ds.length - places)
  else '0' :: '.' :: List.replicate (places - ds.length) '0' ++ ds

/-- The text of a code without a sign. -/
def codeText (code : Nat) : List Char :=
  if code = 0 then ['0'] else positional (shortest code).1 (shortest code).2

/-- The text of a number. -/
def text : Binary64 → String
  | finite negative code => String.ofList ((if negative then ['-'] else []) ++ codeText code)
  | infinite negative => if negative then "-inf" else "inf"
  | nan => "NaN"

end Binary64

end MonitorKeys
