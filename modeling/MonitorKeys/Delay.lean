import MonitorKeys.Delay.Shortest
import MonitorKeys.Text.Blank

/-!
# Delays

The delay after each key is given as a number of seconds.  It is usable when it is not negative,
where a negative zero counts as zero, and below `2 ^ 64` seconds.  `Delay.parse` reads a delay, with
blanks around it passed over.  A text that is no numeral is quoted in the error as it stands, and a
number that is not usable by its own shortest text.

`Delay.nanoseconds` is the delay that is kept between two keys, to the nearest nanosecond.
-/

namespace MonitorKeys

/-- Whether a number of seconds can be waited for. -/
def Binary64.IsUsable : Binary64 → Prop
  | finite negative code =>
    code.val = 0 ∨ (negative = false ∧ units code < 2 ^ 64 * unitsPerOne)
  | infinite _ => False
  | nan => False

instance (x : Binary64) : Decidable x.IsUsable :=
  match x with
  | .finite _ _ => inferInstanceAs (Decidable (_ ∨ _))
  | .infinite _ => inferInstanceAs (Decidable False)
  | .nan => inferInstanceAs (Decidable False)

/-- A number of seconds that can be waited for. -/
structure Delay where
  seconds : Binary64
  isUsable : seconds.IsUsable
  deriving DecidableEq

/-- A text that is not accepted as a delay. -/
structure InvalidDelay where
  /-- The value that the message quotes. -/
  shown : String
  deriving DecidableEq, Repr

/-- The text of the error. -/
def InvalidDelay.message (e : InvalidDelay) : String :=
  "invalid delay '" ++ e.shown ++ "': expected a non-negative number of seconds"

namespace Delay

/-- The delay of a number of seconds. -/
def ofSeconds (x : Binary64) : Except InvalidDelay Delay :=
  if h : x.IsUsable then .ok ⟨x, h⟩ else .error ⟨x.text⟩

/-- The delay that a text writes. -/
def parse (s : String) : Except InvalidDelay Delay :=
  match Numeral.read? (Text.trim s.toList) with
  | some numeral => ofSeconds (Binary64.ofNumeral numeral)
  | none => .error ⟨s⟩

/-- The length of a delay in nanoseconds, a half going to the even neighbour. -/
def nanoseconds (delay : Delay) : Nat :=
  match delay.seconds with
  | .finite _ code => roundHalfEven (Binary64.units code * 10 ^ 9) Binary64.unitsPerOne
  | _ => 0

/-- A tenth of a second, the delay where none is given. -/
def tenthSecond : Delay :=
  ⟨.finite false ⟨0x3fb999999999999a, by decide +kernel⟩, by decide +kernel⟩

end Delay

/-! ## Durations in log records -/

/-- A quotient by a power of ten in decimal, without zeros at its end. -/
def decimalText (n places : Nat) : String :=
  let fraction := (Nat.toDigits 10 (n % 10 ^ places + 10 ^ places)).drop 1
  let shown := (fraction.reverse.dropWhile (· == '0')).reverse
  toString (n / 10 ^ places) ++ if shown = [] then "" else String.ofList ('.' :: shown)

/-- A number of nanoseconds in the largest unit of which it has at least one, from seconds down to
nanoseconds. -/
def durationText (nanoseconds : Nat) : String :=
  if 10 ^ 9 ≤ nanoseconds then decimalText nanoseconds 9 ++ "s"
  else if 10 ^ 6 ≤ nanoseconds then decimalText nanoseconds 6 ++ "ms"
  else if 10 ^ 3 ≤ nanoseconds then decimalText nanoseconds 3 ++ "µs"
  else decimalText nanoseconds 0 ++ "ns"

/-- The pause that the name `wait` asks for, in nanoseconds. -/
def waitPause : Nat := 10 ^ 9

end MonitorKeys
