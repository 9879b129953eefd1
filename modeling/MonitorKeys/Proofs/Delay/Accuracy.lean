import Mathlib.Algebra.Order.Floor.Semiring
import Mathlib.Data.Rat.Floor
import MonitorKeys.Proofs.Delay

/-!
# The accuracy of a delay

The exact value of a decimal number is rounded twice, to a binary64 number of seconds and to whole
nanoseconds.

* `Delay.WritesValue` is the exact value of a text, and `Delay.Keeps` the pause that an invocation
  with it makes.
* `Delay.exists_code` gives the code between the two roundings.
* `Binary64.abs_sub_magnitude_le` bounds the error of the first rounding below a power of two.
* `Delay.keeps_of_writesValue` says that the second rounding undoes this error where whole
  nanoseconds are written, and `Delay.keeps_mono` that the two roundings keep the order.
-/

namespace MonitorKeys

/-- A whole number in units of `v` is nearest to that of a number which is close enough to `v`. -/
theorem isNearest_of_mul_abs_sub_lt {v w unit : Rat} {k : Nat} (hk : (k : Rat) = unit * v)
    (hunit : 0 < unit) (h : unit * |v - w| < 1 / 2) :
    IsNearest (fun k => (k : Rat)) (unit * w) k := by
  have hclose : |unit * w - k| < 1 / 2 := by
    rw [hk, ← mul_sub, abs_mul, abs_sub_comm, abs_of_pos hunit]
    exact h
  exact isNearest_cast_of_abs_le hclose.le fun htie => absurd htie hclose.ne

/-! ## The error of a binary64 number -/

namespace Binary64

/-- A whole number of steps `1 / 2 ^ p` is the value of a code, up to `2 ^ 53` steps. -/
theorem exists_magnitude {n p : Nat} (hn : n ≤ 2 ^ 53) (hp : p ≤ 1022) :
    ∃ code, magnitude code = n / 2 ^ p := by
  obtain ⟨code, hcode⟩ := exists_units (k := 1074 - p) hn (by omega)
  have hunit : (2 : Rat) ^ (1074 - p) * 2 ^ p = 2 ^ 1074 := pow_sub_mul_pow 2 (by omega)
  refine ⟨code, ?_⟩
  rw [magnitude_eq, hcode, cast_unitsPerOne, ← hunit, Nat.cast_mul, Nat.cast_pow, Nat.cast_ofNat,
    mul_comm, mul_div_mul_left _ _ (by positivity)]

/-- Up to `2 ^ 53` steps the error is at most half a step. -/
theorem abs_sub_magnitude_le {v : Rat} {code p : Nat} (h : IsNearest magnitude v code)
    (h0 : 0 ≤ v) (hv : v * 2 ^ p ≤ 2 ^ 53) (hp : p ≤ 1022) :
    |v - magnitude code| ≤ 1 / 2 / 2 ^ p := by
  have hstep : (0 : Rat) < 2 ^ p := by positivity
  -- the nearest whole number of steps is the value of a code
  let n := ⌊v * 2 ^ p + 1 / 2⌋₊
  have hfloor : (n : Rat) ≤ v * 2 ^ p + 1 / 2 := Nat.floor_le (by positivity)
  have hnext : v * 2 ^ p + 1 / 2 < n + 1 := Nat.lt_floor_add_one _
  have hn : n ≤ 2 ^ 53 := by
    have hlt : (n : Rat) < (2 ^ 53 + 1 : Nat) := by
      push_cast
      linarith
    exact Nat.le_of_lt_succ (Nat.cast_lt.1 hlt)
  obtain ⟨other, hother⟩ := exists_magnitude hn hp
  calc |v - magnitude code| ≤ |v - magnitude other| := h.abs_le other
    _ = |v * 2 ^ p - n| / 2 ^ p := by
        rw [hother, ← abs_of_pos hstep, ← abs_div, abs_of_pos hstep, sub_div,
          mul_div_cancel_right₀ _ hstep.ne']
    _ ≤ 1 / 2 / 2 ^ p := by
        refine div_le_div_of_nonneg_right (abs_le.2 ?_) hstep.le
        constructor <;> linarith

/-! ## The number of a code -/

theorem value?_ofCode {negative : Bool} {code : Nat} (h : (ofCode negative code).IsUsable) :
    (ofCode negative code).value? = some (magnitude code) := by
  rw [ofCode] at h ⊢
  split at h
  next hcode => rw [dif_pos hcode, value?_of_isUsable h]
  next => exact h.elim

/-- The number of a code without a sign, or of a signed zero, is accepted below `2 ^ 64`. -/
theorem isUsable_ofCode_iff {negative : Bool} {code : Nat} (hsign : negative = true → code = 0) :
    (ofCode negative code).IsUsable ↔ magnitude code < 2 ^ 64 := by
  constructor
  · intro h
    obtain ⟨v, hv, -, hlt⟩ := isUsable_iff.1 h
    rw [value?_ofCode h, Option.some.injEq] at hv
    rwa [hv]
  · intro h
    have hcode : code < infinityCode := by
      rw [← strictMono_magnitude.lt_iff_lt, magnitude_infinityCode]
      exact h.trans_le (pow_le_pow_right₀ (by norm_num) (by decide))
    rw [isUsable_iff, ofCode, dif_pos hcode]
    refine ⟨magnitude code, ?_, magnitude_nonneg code, h⟩
    cases negative with
    | false => rfl
    | true =>
      obtain rfl := hsign rfl
      rw [value?, magnitude_zero, signed, if_pos rfl, neg_zero]

end Binary64

/-! ## Exact values and pauses -/

/-- The exact value of a decimal number. -/
def Numeral.Meaning.value? : Numeral.Meaning → Option Rat
  | decimal negative size => some (signed negative size)
  | infinity _ => none
  | nan => none

namespace Delay

/-- The text is a decimal number of this exact value, with blanks around it. -/
def WritesValue (v : Rat) (s : String) : Prop :=
  ∃ m, Writes m s ∧ m.value? = some v

/-- The text is accepted, and an invocation with its delay pauses for so many nanoseconds. -/
def Keeps (s : String) (n : Nat) : Prop :=
  ∃ delay, parse s = .ok delay ∧
    ∀ invocation : Invocation, invocation.delay = some delay → invocation.delayNanoseconds = n

theorem writesValue_of_read? {s : String} {value : Decimal}
    (h : Numeral.read? (Text.trim s.toList) = some (.decimal value)) :
    WritesValue (signed value.negative value.size) s :=
  ⟨_, writes_of_read? h, rfl⟩

/-- Of the numbers that are not negative only zero may have a sign. -/
theorem eq_of_signed_nonneg {negative : Bool} {size : Rat} (hsize : 0 ≤ size)
    (h : 0 ≤ signed negative size) :
    size = signed negative size ∧ (negative = true → size = 0) := by
  cases negative with
  | false => exact ⟨rfl, by simp⟩
  | true =>
    have hzero : size = 0 := le_antisymm (neg_nonneg.1 h) hsize
    exact ⟨by rw [signed, if_pos rfl, hzero, neg_zero], fun _ => hzero⟩

theorem parse_of_writesValue {v : Rat} {s : String} (hs : WritesValue v s) (h0 : 0 ≤ v) :
    ∃ negative code, (negative = true → code = 0) ∧ IsNearest Binary64.magnitude v code ∧
      parse s = ofSeconds (Binary64.ofCode negative code) := by
  obtain ⟨m, hm, hvalue⟩ := hs
  obtain ⟨x, hround, hparse⟩ := parse_of_writes hm
  cases m with
  | decimal negative size =>
    obtain ⟨code, hcode, rfl⟩ := hround
    obtain ⟨inner, -, hinner⟩ := hm
    rw [Numeral.Meaning.value?, Option.some.injEq] at hvalue
    rw [← hvalue] at h0 ⊢
    obtain ⟨heq, hzero⟩ := eq_of_signed_nonneg (Numeral.size_nonneg_of_writes hinner) h0
    refine ⟨negative, code, fun hnegative => ?_, heq ▸ hcode, hparse⟩
    rw [hzero hnegative, ← Binary64.magnitude_zero] at hcode
    exact hcode.unique Binary64.strictMono_magnitude
      (isNearest_self Binary64.strictMono_magnitude 0)
  | infinity negative => cases hvalue
  | nan => cases hvalue

/-- The code of the number of seconds is that of the value nearest to the exact one, and the pause
is nearest to the value of the code. -/
theorem exists_code {v : Rat} {s : String} (hs : WritesValue v s) (h0 : 0 ≤ v) :
    ∃ code, IsNearest Binary64.magnitude v code ∧
      ((∃ delay, parse s = .ok delay) → Binary64.magnitude code < 2 ^ 64) ∧
      (Binary64.magnitude code < 2 ^ 64 → ∃ n, Keeps s n ∧
        IsNearest (fun k => (k : Rat)) (10 ^ 9 * Binary64.magnitude code) n) := by
  obtain ⟨negative, code, hsign, hcode, hparse⟩ := parse_of_writesValue hs h0
  have husable := Binary64.isUsable_ofCode_iff hsign
  refine ⟨code, hcode, ?_, ?_⟩
  · rintro ⟨delay, hok⟩
    rw [← husable]
    by_contra hnot
    rw [hparse, ofSeconds, dif_neg hnot] at hok
    cases hok
  · intro hlt
    have hx := husable.2 hlt
    have hvalue := Binary64.value?_ofCode hx
    let delay : Delay := ⟨_, hx⟩
    refine ⟨delay.nanoseconds, ⟨delay, ?_, ?_⟩, isNearest_nanoseconds delay hvalue⟩
    · rw [hparse, ofSeconds, dif_pos hx]
    · exact fun invocation hdelay => delayNanoseconds_eq hdelay

/-- A delay that is written to the nanosecond is kept exactly, up to `4 * 10 ^ 15` nanoseconds. -/
theorem keeps_of_writesValue {k : Nat} (hk : k ≤ 4 * 10 ^ 15) {s : String}
    (hs : WritesValue (k * 10 ^ (-9 : Int)) s) : Keeps s k := by
  generalize hv : (k : Rat) * 10 ^ (-9 : Int) = v at hs
  have hexact : (k : Rat) = 10 ^ 9 * v := by
    rw [← hv]
    norm_num
    ring
  have hk' : (k : Rat) ≤ 4 * 10 ^ 15 := by exact_mod_cast hk
  have h0 : 0 ≤ v := by
    rw [← hv]
    positivity
  obtain ⟨code, hcode, -, hkeeps⟩ := exists_code hs h0
  -- up to this size the number of seconds is off by less than half a nanosecond
  have herror : |v - Binary64.magnitude code| ≤ 1 / 2 / 2 ^ 31 :=
    Binary64.abs_sub_magnitude_le hcode h0 (by linarith) (by decide)
  have hlt : Binary64.magnitude code < 2 ^ 64 := by
    have hbelow := (abs_le.1 herror).1
    linarith
  obtain ⟨n, hn, hnearest⟩ := hkeeps hlt
  have hk_nearest : IsNearest (fun k => (k : Rat)) (10 ^ 9 * Binary64.magnitude code) k := by
    refine isNearest_of_mul_abs_sub_lt hexact (by positivity) ?_
    calc 10 ^ 9 * |v - Binary64.magnitude code|
        ≤ 10 ^ 9 * (1 / 2 / 2 ^ 31) := mul_le_mul_of_nonneg_left herror (by positivity)
      _ < 1 / 2 := by norm_num
  rwa [hnearest.unique strictMono_cast hk_nearest] at hn

/-- Microseconds with three decimals are nanoseconds. -/
theorem keeps_microseconds : Keeps " +123456.789e-6" 123456789 := by
  have hvalue : WritesValue ((123456789 : Nat) * 10 ^ (-9 : Int)) " +123456.789e-6" :=
    @writesValue_of_read? _ ⟨false, 123456789, -9⟩ (by decide)
  exact keeps_of_writesValue (by decide) hvalue

/-- A longer delay is never shortened: where it is accepted, a shorter one is accepted too, and its
pause is not longer.  Equal values make equal pauses. -/
theorem keeps_mono {s₁ s₂ : String} {v₁ v₂ : Rat} (h₁ : WritesValue v₁ s₁)
    (h₂ : WritesValue v₂ s₂) (h0 : 0 ≤ v₁) (hle : v₁ ≤ v₂) (hok : ∃ delay, parse s₂ = .ok delay) :
    ∃ n₁ n₂, Keeps s₁ n₁ ∧ Keeps s₂ n₂ ∧ n₁ ≤ n₂ ∧ (v₁ = v₂ → n₁ = n₂) := by
  obtain ⟨code₁, hcode₁, -, hkeeps₁⟩ := exists_code h₁ h0
  obtain ⟨code₂, hcode₂, hlimit, hkeeps₂⟩ := exists_code h₂ (h0.trans hle)
  have hmagnitude : Binary64.magnitude code₁ ≤ Binary64.magnitude code₂ :=
    Binary64.strictMono_magnitude.monotone
      (hcode₁.mono Binary64.strictMono_magnitude hcode₂ hle)
  obtain ⟨n₂, hn₂, hnearest₂⟩ := hkeeps₂ (hlimit hok)
  obtain ⟨n₁, hn₁, hnearest₁⟩ := hkeeps₁ (hmagnitude.trans_lt (hlimit hok))
  refine ⟨n₁, n₂, hn₁, hn₂, ?_, ?_⟩
  · exact hnearest₁.mono strictMono_cast hnearest₂
      (mul_le_mul_of_nonneg_left hmagnitude (by positivity))
  · rintro rfl
    rw [hcode₁.unique Binary64.strictMono_magnitude hcode₂] at hnearest₁
    exact hnearest₁.unique strictMono_cast hnearest₂

/-- Zero with a sign is not longer than a tenth of a second, written in a roundabout way. -/
theorem keeps_mono_zero_tenth :
    ∃ n₁ n₂, Keeps "-0" n₁ ∧ Keeps "1000e-4" n₂ ∧ n₁ ≤ n₂ := by
  have hzero : WritesValue (signed true (0 * 10 ^ (0 : Int))) "-0" :=
    @writesValue_of_read? _ ⟨true, 0, 0⟩ (by decide)
  have htenth : WritesValue (signed false (1000 * 10 ^ (-4 : Int))) "1000e-4" :=
    @writesValue_of_read? _ ⟨false, 1000, -4⟩ (by decide)
  obtain ⟨n₁, n₂, h₁, h₂, hle, -⟩ := keeps_mono hzero htenth (by norm_num [signed])
    (by norm_num [signed]) ⟨tenthSecond, by decide +kernel⟩
  exact ⟨n₁, n₂, h₁, h₂, hle⟩

end Delay

end MonitorKeys
