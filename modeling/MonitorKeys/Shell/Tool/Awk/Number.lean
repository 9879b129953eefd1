import MonitorKeys.Shell.Printing
import MonitorKeys.Shell.Tool

/-!
# Numbers of the pattern language

Programs in the pattern language compute with binary64 numbers and turn texts into numbers and back
all the time.  A text counts by the number at its start, or as zero where there is none.  A number
that is whole is written in full as long as a machine word holds it, and any other one by a format.
-/

namespace MonitorKeys.Shell.Tool.Awk

/-- The floating-point number that is stored as a binary64 number. -/
def floatOf (x : Binary64) : Float :=
  Float.ofBits (UInt64.ofNat x.bits)

/-- The binary64 number that a floating-point number is. -/
def binaryOf (x : Float) : Binary64 :=
  let bits := x.toBits.toNat
  let negative : Bool := 2 ^ 63 ≤ bits
  let code := bits % 2 ^ 63
  if Binary64.infinityCode < code then .nan else Binary64.ofCode negative code

/-- The number that a natural one is. -/
def natural (n : Nat) : Float :=
  floatOf (Binary64.ofCode false (Binary64.nearestCode n 1))

/-- The number that a whole one is. -/
def whole (n : Int) : Float :=
  if n < 0 then -natural n.natAbs else natural n.natAbs

/-- A number without its fraction; `none` where it is not finite. -/
def truncate? (x : Float) : Option Int :=
  match binaryOf x with
  | .finite negative code =>
    let n := Binary64.units code.val / Binary64.unitsPerOne
    some (if negative then -(n : Int) else n)
  | _ => none

/-- The greatest number of a word with a sign. -/
def greatest : Int := 2 ^ 63 - 1

/-- The whole number that a number counts as, in the range of a word with a sign. -/
def clamp (x : Float) : Int :=
  match binaryOf x with
  | .nan => -greatest
  | .infinite negative => if negative then -greatest else greatest
  | .finite _ _ => max (-greatest) (min greatest ((truncate? x).getD 0))

/-- The rest of a division that goes toward zero. -/
def remainder (x y : Float) : Float :=
  match binaryOf x, binaryOf y with
  | .finite negative a, .finite _ b =>
    let units := Binary64.units b.val
    if units = 0 then 0.0 / 0.0
    else
      floatOf (Binary64.ofCode negative
        (Binary64.nearestCode (Binary64.units a.val % units) Binary64.unitsPerOne))
  | .finite _ _, .infinite _ => x
  | _, _ => 0.0 / 0.0

/-! ## Numbers in texts -/

/-- Whether a character is a blank in front of a number. -/
def isSpace (c : Char) : Bool :=
  c == ' ' || ('\t' ≤ c && c ≤ '\r')

/-- The number to base sixteen at the start of a text behind its `0x`, and how many characters it
takes. -/
def hexadecimal? (cs : List Char) : Option (Float × Nat) :=
  let isHex (c : Char) := (Raw.digits? 16 [c]).isSome
  let whole := cs.takeWhile isHex
  let fraction := match cs.drop whole.length with
    | '.' :: rest => rest.takeWhile isHex
    | _ => []
  let point := if (cs.drop whole.length).head? == some '.' then 1 else 0
  (Raw.digits? 16 (whole ++ fraction)).map fun n =>
    let length := whole.length + fraction.length + point
    let (sign, rest) : Int × List Char := match cs.drop length with
      | 'p' :: '-' :: rest | 'P' :: '-' :: rest => (-1, rest)
      | 'p' :: '+' :: rest | 'P' :: '+' :: rest | 'p' :: rest | 'P' :: rest => (1, rest)
      | _ => (1, [])
    let ds := rest.takeWhile Char.isDigit
    let taken := if ds.isEmpty then 0 else (cs.drop length).length - rest.length + ds.length
    let exponent : Int := sign * ((Raw.digits? 10 ds).getD 0 : Nat) - 4 * fraction.length
    let code := Binary64.nearestCode (n * 2 ^ exponent.toNat) (2 ^ (-exponent).toNat)
    (floatOf (Binary64.ofCode false code), length + taken)

/-- The number at the start of a text, and how many characters it takes with the blanks in front. -/
def numberAtStart? (cs : List Char) : Option (Float × Nat) :=
  let blank := (cs.takeWhile isSpace).length
  let body := cs.drop blank
  let (negative, signLength, rest) : Bool × Nat × List Char := match body with
    | '-' :: rest => (true, 1, rest)
    | '+' :: rest => (false, 1, rest)
    | rest => (false, 0, rest)
  let hex? := match rest with
    | '0' :: x :: digits => if x == 'x' || x == 'X' then hexadecimal? digits else none
    | _ => none
  match hex? with
  | some (x, n) => some (if negative then -x else x, blank + signLength + 2 + n)
  | none => (realPrefix? cs).map fun (x, n) => (floatOf x, n)

/-- The number that a text counts as. -/
def numberOf (s : String) : Float :=
  match numberAtStart? s.toList with
  | some (x, _) => x
  | none => 0.0

/-- The number that a text is as a whole, apart from blanks around it. -/
def wholeNumber? (s : String) : Option Float :=
  match numberAtStart? s.toList with
  | some (x, n) => if (s.toList.drop n).all isSpace then some x else none
  | none => none

/-! ## Texts of numbers -/

/-- The text of a number by a directive; what is no number has a minus sign. -/
def realText (d : Directive) (x : Float) : String :=
  match binaryOf x with
  | .nan => d.pad (if d.letter.isUpper then "-NAN" else "-nan")
  | b => d.real b

/-- The text of a number by a format that holds one directive. -/
def formatted (format : String) (x : Float) : String :=
  let cs := format.toList
  let before := cs.takeWhile (· != '%')
  match cs.drop before.length with
  | _ :: rest =>
    let (outline, rest) := Directive.outline rest
    match rest with
    | letter :: after =>
      let d := Directive.ofOutline outline letter []
      let shown := if "di".toList.contains letter then d.integer (clamp x) else realText d x
      String.ofList before ++ shown ++ String.ofList after
    | [] => format
  | [] => format

/-- The text of a number: all digits where it is whole and not too large, and else by a format. -/
def textOf (format : String) (x : Float) : String :=
  let other := formatted format x
  match binaryOf x, truncate? x with
  | .finite negative _, some n =>
    let limit : Int := 2 ^ 64 - 1
    let shown := if negative then max n (-greatest) else min n limit
    if whole shown == x then toString shown else other
  | _, _ => other

end MonitorKeys.Shell.Tool.Awk
