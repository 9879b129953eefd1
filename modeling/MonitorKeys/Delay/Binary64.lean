import MonitorKeys.Delay.Numeral
import MonitorKeys.Delay.Rounding
import MonitorKeys.Power

/-!
# Binary floating-point numbers of 64 bits

A number of seconds is kept as a binary64 number.  The 63 bits below the sign, read as a natural
number, are its *code*: codes are ordered as the values are, and the code after the largest finite
one is infinity.  All finite values are whole multiples of `2 ^ -1074`, so `Binary64.units` gives
the value of a code exactly, as a natural number of these units.

* `Binary64.nearestCode` rounds a quotient of natural numbers to the nearest value, a half going to
  the even code.
* `Binary64.ofNumeral` does this for a numeral.
-/

namespace MonitorKeys

namespace Binary64

/-- The number of bits of the fraction field. -/
def fractionBits : Nat := 52

/-- The code of infinity, above that of every finite value. -/
def infinityCode : Nat := 2047 * 2 ^ fractionBits

/-- How many times the smallest positive value goes into one. -/
def unitsPerOne : Nat := 2 ^ 1074

/-- The value of a code in units of the smallest positive value.  An exponent field of zero has no
hidden bit, and each step of a larger field doubles the value. -/
def units (code : Nat) : Nat :=
  if code < 2 ^ fractionBits then code
  else (2 ^ fractionBits + code % 2 ^ fractionBits) * 2 ^ (code / 2 ^ fractionBits - 1)

end Binary64

/-- A binary64 number; one value stands for all that are not a number. -/
inductive Binary64 where
  | finite (negative : Bool) (code : Fin Binary64.infinityCode)
  | infinite (negative : Bool)
  | nan
  deriving DecidableEq, Repr

namespace Binary64

/-- The code of the value nearest to `n / d`.  The quotient in units is scaled down by the power of
two that leaves 53 significant bits, and rounded there; a carry out of these bits moves on to the
next exponent by itself. -/
def nearestCode (n d : Nat) : Nat :=
  let scaled := n * unitsPerOne
  let shift := Nat.log2 (scaled / d) - fractionBits
  min (shift * 2 ^ fractionBits + roundHalfEven scaled (d * 2 ^ shift)) infinityCode

/-- The code of the value nearest to `digits * 10 ^ exponent`.  The second and third case answer
without computing the power: there the number is above every finite value, or below half of the
smallest one. -/
def decimalCode (digits : Nat) (exponent : Int) : Nat :=
  if digits = 0 then 0
  else if 400 ≤ exponent then infinityCode
  else if exponent + Nat.log2 digits + 1 ≤ -400 then 0
  else nearestCode (digits * 10 ^ exponent.toNat) (10 ^ (-exponent).toNat)

/-- The number with the given sign and code. -/
def ofCode (negative : Bool) (code : Nat) : Binary64 :=
  if h : code < infinityCode then finite negative ⟨code, h⟩ else infinite negative

/-- The number nearest to a numeral. -/
def ofNumeral : Numeral → Binary64
  | .decimal value => ofCode value.negative (decimalCode value.digits value.exponent)
  | .infinity negative => infinite negative
  | .nan => nan

/-- The 64 bits of a number. -/
def bits : Binary64 → Nat
  | finite negative code => (if negative then 2 ^ 63 else 0) + code
  | infinite negative => (if negative then 2 ^ 63 else 0) + infinityCode
  | nan => infinityCode + 2 ^ (fractionBits - 1)

end Binary64

end MonitorKeys
