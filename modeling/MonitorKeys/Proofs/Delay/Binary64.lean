import Mathlib.Algebra.Order.Field.Power
import Mathlib.Algebra.Ring.Parity
import Mathlib.Order.Monotone.Basic
import Mathlib.Tactic.NormNum
import Mathlib.Tactic.Positivity
import Mathlib.Tactic.Ring
import MonitorKeys.Delay.Binary64
import MonitorKeys.Proofs.Delay.Nearest

/-!
# Correct rounding to a binary64 number

`Binary64.magnitude` is the value of a code by its two fields, and `RoundsTo` is what correct
rounding means: the nearest value, of two that are equally near the one with the even code, and
infinity when that code is beyond the finite ones.

* `units_cases` gives the two kinds of codes, `units_scaled` the value of a code with a hidden bit,
  also when a carry has led to the next exponent, and `strictMono_units` the order.
* `dvd_units` says that the values from a power of two on lie on the grid of its exponent, and
  `exists_units` that such a grid has no point without a code.
* `isNearest_units_of_step` goes from a rounded significand over to the code,
  `cast_div_lt_two_pow` and `two_pow_le_cast_div` place a quotient between two powers of two, and
  `isNearest_magnitude_unboundedCode` is the rounding of a quotient.
* `roundsTo_decimalCode` is the rounding of a decimal number, and `RoundsTo.unique` says that
  there is no other one.
-/

namespace MonitorKeys.Binary64

/-! ## The values of codes -/

/-- The value of a code.  The exponent field is biased by 1023, and below an exponent of one there
is no hidden bit. -/
def magnitude (code : Nat) : Rat :=
  let exponent : Nat := code / 2 ^ 52
  let fraction : Nat := code % 2 ^ 52
  if exponent = 0 then fraction / 2 ^ 52 * 2 ^ (-1022 : Int)
  else (1 + fraction / 2 ^ 52) * 2 ^ ((exponent : Int) - 1023)

theorem units_of_lt {code : Nat} (h : code < 2 ^ 52) : units code = code := by
  rw [units, fractionBits, if_pos h]

/-- A significand of 53 bits is shifted by its exponent.  One that was rounded up to `2 ^ 53` has
the smallest significand of the next exponent. -/
theorem units_scaled {s r : Nat} (hlow : 2 ^ 52 ≤ r) (hhigh : r ≤ 2 ^ 53) :
    units (s * 2 ^ 52 + r) = r * 2 ^ s := by
  have hnormal : ¬ s * 2 ^ 52 + r < 2 ^ 52 := by omega
  rw [units, fractionBits, if_neg hnormal]
  rcases hhigh.lt_or_eq with hlt | rfl
  · have hexponent : (s * 2 ^ 52 + r) / 2 ^ 52 - 1 = s := by omega
    have hfraction : 2 ^ 52 + (s * 2 ^ 52 + r) % 2 ^ 52 = r := by omega
    rw [hexponent, hfraction]
  · have hexponent : (s * 2 ^ 52 + 2 ^ 53) / 2 ^ 52 - 1 = s + 1 := by omega
    have hfraction : (s * 2 ^ 52 + 2 ^ 53) % 2 ^ 52 = 0 := by omega
    rw [hexponent, hfraction, Nat.pow_succ]
    omega

/-- A code either has no hidden bit, or it is an exponent and a significand of 53 bits. -/
theorem units_cases (code : Nat) :
    code < 2 ^ 52 ∨ ∃ s r, code = s * 2 ^ 52 + r ∧ 2 ^ 52 ≤ r ∧ r < 2 ^ 53 := by
  by_cases h : code < 2 ^ 52
  · exact Or.inl h
  · exact Or.inr ⟨code / 2 ^ 52 - 1, 2 ^ 52 + code % 2 ^ 52, by omega, by omega, by omega⟩

theorem cast_unitsPerOne : ((unitsPerOne : Nat) : Rat) = 2 ^ 1074 := by
  simp only [unitsPerOne, Nat.cast_pow, Nat.cast_ofNat]

theorem unitsPerOne_pos : (0 : Rat) < (unitsPerOne : Nat) := by
  rw [cast_unitsPerOne]
  positivity

/-- The value of a code is its number of units. -/
theorem magnitude_eq (code : Nat) : magnitude code = units code / (unitsPerOne : Nat) := by
  have hunit : ((unitsPerOne : Nat) : Rat) = 2 ^ 52 * 2 ^ 1022 := by
    rw [cast_unitsPerOne, ← pow_add]
  rw [hunit]
  rcases units_cases code with h | ⟨s, r, rfl, hlow, hhigh⟩
  · have hexponent : code / 2 ^ 52 = 0 := by omega
    have hfraction : code % 2 ^ 52 = code := by omega
    rw [magnitude, hexponent, hfraction, if_pos rfl, units_of_lt h, zpow_neg, zpow_ofNat,
      ← div_eq_mul_inv, div_div]
  · have hexponent : (s * 2 ^ 52 + r) / 2 ^ 52 = s + 1 := by omega
    have hfraction : (s * 2 ^ 52 + r) % 2 ^ 52 = r - 2 ^ 52 := by omega
    have hsignificand : 1 + ((r - 2 ^ 52 : Nat) : Rat) / 2 ^ 52 = r / 2 ^ 52 := by
      rw [Nat.cast_sub hlow, Nat.cast_pow, Nat.cast_ofNat, sub_div, div_self (by positivity)]
      ring
    have hpower : (2 : Rat) ^ (((s + 1 : Nat) : Int) - 1023) = 2 ^ s / 2 ^ 1022 := by
      have hint : ((s + 1 : Nat) : Int) - 1023 = (s : Int) - (1022 : Nat) := by
        push_cast
        ring
      rw [hint, zpow_sub₀ two_ne_zero, zpow_natCast, zpow_natCast]
    rw [magnitude, hexponent, hfraction, if_neg (Nat.succ_ne_zero s), hsignificand, hpower,
      units_scaled hlow hhigh.le, div_mul_div_comm, Nat.cast_mul, Nat.cast_pow, Nat.cast_ofNat]

theorem strictMono_units : StrictMono units := by
  refine strictMono_nat_of_lt_succ fun code => ?_
  rcases units_cases code with h | ⟨s, r, rfl, hlow, hhigh⟩
  · rw [units_of_lt h]
    rcases Nat.lt_or_ge (code + 1) (2 ^ 52) with hnext | hnext
    · rw [units_of_lt hnext]
      omega
    · have hfirst : code + 1 = 0 * 2 ^ 52 + 2 ^ 52 := by omega
      rw [hfirst, units_scaled (by omega) (by omega)]
      omega
  · rw [Nat.add_assoc, units_scaled hlow hhigh.le, units_scaled (by omega) (by omega)]
    exact Nat.mul_lt_mul_of_pos_right (Nat.lt_succ_self r) (Nat.two_pow_pos s)

/-- From a power of two on all values are multiples of the unit of its exponent. -/
theorem dvd_units {s code : Nat} (h : 2 ^ (52 + s) ≤ units code) : 2 ^ s ∣ units code := by
  rcases units_cases code with hlt | ⟨e, r, rfl, hlow, hhigh⟩
  · have hzero : s = 0 := by
      rw [units_of_lt hlt] at h
      have hpow : 2 ^ (52 + s) < 2 ^ 52 := h.trans_lt hlt
      have := (Nat.pow_lt_pow_iff_right (by decide : 1 < 2)).1 hpow
      omega
    rw [hzero]
    exact Nat.one_dvd _
  · rw [units_scaled hlow hhigh.le] at h ⊢
    have hlt : 2 ^ (52 + s) < 2 ^ (53 + e) := by
      rw [Nat.pow_add 2 53]
      exact h.trans_lt (Nat.mul_lt_mul_of_pos_right hhigh (Nat.two_pow_pos e))
    have hse : 52 + s < 53 + e := (Nat.pow_lt_pow_iff_right (by decide : 1 < 2)).1 hlt
    exact Dvd.dvd.mul_left (Nat.pow_dvd_pow 2 (by omega)) r

/-- A number of 53 bits with at least 52 zeros behind it is the value of a code. -/
theorem exists_units {n k : Nat} (hn : n ≤ 2 ^ 53) (hk : 52 ≤ k) :
    ∃ code, units code = n * 2 ^ k := by
  rcases Nat.eq_zero_or_pos n with rfl | hpos
  · exact ⟨0, by rw [units_of_lt (by decide), Nat.zero_mul]⟩
  · have hlog := Nat.log2_self_le hpos.ne'
    have hnext := Nat.lt_log2_self (n := n)
    rcases Nat.lt_or_ge n (2 ^ 52) with hsmall | hlarge
    · -- the significand is filled up with zeros
      have hlog_lt : n.log2 < 52 := (Nat.log2_lt hpos.ne').2 hsmall
      obtain ⟨a, ha⟩ : ∃ a, n.log2 + a = 52 := ⟨52 - n.log2, by omega⟩
      have hlow : 2 ^ 52 ≤ n * 2 ^ a := by
        rw [← ha, Nat.pow_add]
        exact Nat.mul_le_mul_right _ hlog
      have hhigh : n * 2 ^ a ≤ 2 ^ 53 := by
        have hpow : 2 ^ 53 = 2 ^ (n.log2 + 1) * 2 ^ a := by
          rw [← Nat.pow_add]
          congr 1
          omega
        rw [hpow]
        exact Nat.mul_le_mul_right _ hnext.le
      refine ⟨(k - a) * 2 ^ 52 + n * 2 ^ a, ?_⟩
      rw [units_scaled hlow hhigh, Nat.mul_assoc, ← Nat.pow_add]
      congr 2
      omega
    · exact ⟨k * 2 ^ 52 + n, units_scaled hlarge hn⟩

/-! ## Rounding a quotient -/

/-- The distance of two numbers in units of a power of two. -/
theorem abs_sub_mul_two_pow (v : Rat) (k s : Nat) :
    |v - k * 2 ^ s| = |v / 2 ^ s - k| * 2 ^ s := by
  have hpos : (0 : Rat) < 2 ^ s := by positivity
  rw [← abs_of_pos hpos, ← abs_mul, abs_of_pos hpos, sub_mul, div_mul_cancel₀ _ hpos.ne']

/-- From a power of two on a rounded significand is nearer than any value below that power, since
it is at least as near as the power itself. -/
theorem abs_sub_lt_of_lt_two_pow {v : Rat} {s r u : Nat}
    (hr : IsNearest (fun k => (k : Rat)) (v / 2 ^ s) r) (hv : 2 ^ (52 + s) ≤ v)
    (hu : u < 2 ^ (52 + s)) : |v - r * 2 ^ s| < |v - u| := by
  have hu' : (u : Rat) < 2 ^ (52 + s) := by exact_mod_cast hu
  have hpower : ((2 ^ 52 : Nat) : Rat) * 2 ^ s = 2 ^ (52 + s) := by
    rw [Nat.cast_pow, Nat.cast_ofNat, pow_add]
  calc |v - r * 2 ^ s|
      = |v / 2 ^ s - r| * 2 ^ s := abs_sub_mul_two_pow v r s
    _ ≤ |v / 2 ^ s - (2 ^ 52 : Nat)| * 2 ^ s :=
        mul_le_mul_of_nonneg_right (hr.abs_le (2 ^ 52)) (by positivity)
    _ = v - 2 ^ (52 + s) := by
        rw [← abs_sub_mul_two_pow, hpower, abs_of_nonneg (by linarith)]
    _ < v - u := by linarith
    _ = |v - u| := (abs_of_pos (by linarith)).symm

/-- A code that is rounded to `53` bits stands for the nearest value.  The significand is rounded
in units of its exponent, and in these all values from its power of two on are whole. -/
theorem isNearest_units_of_step {v : Rat} {s r : Nat}
    (hr : IsNearest (fun k => (k : Rat)) (v / 2 ^ s) r) (hhigh : r ≤ 2 ^ 53)
    (hs : s = 0 ∨ 2 ^ 52 ≤ r ∧ 2 ^ (52 + s) ≤ v) :
    IsNearest (fun code => (units code : Rat)) v (s * 2 ^ 52 + r) := by
  have hpos : (0 : Rat) < 2 ^ s := by positivity
  have hunits : units (s * 2 ^ 52 + r) = r * 2 ^ s := by
    rcases Nat.lt_or_ge r (2 ^ 52) with hlt | hlow
    · have hzero : s = 0 := hs.resolve_right fun h => absurd h.1 (Nat.not_le.2 hlt)
      rw [hzero, Nat.zero_mul, Nat.zero_add, units_of_lt hlt, Nat.pow_zero, Nat.mul_one]
    · exact units_scaled hlow hhigh
  have heven : Even (s * 2 ^ 52 + r) ↔ Even r := by
    rw [Nat.even_iff, Nat.even_iff]
    omega
  intro m hm
  show |v - (units (s * 2 ^ 52 + r) : Rat)| < |v - (units m : Rat)| ∨
    |v - (units (s * 2 ^ 52 + r) : Rat)| = |v - (units m : Rat)| ∧ Even (s * 2 ^ 52 + r)
  rw [hunits, heven, Nat.cast_mul, Nat.cast_pow, Nat.cast_ofNat]
  by_cases hdvd : 2 ^ s ∣ units m
  · obtain ⟨j, hj⟩ := hdvd
    have hjr : j ≠ r := by
      rintro rfl
      exact hm (strictMono_units.injective (by rw [hj, hunits, Nat.mul_comm]))
    rw [hj, Nat.mul_comm, Nat.cast_mul, Nat.cast_pow, Nat.cast_ofNat, abs_sub_mul_two_pow,
      abs_sub_mul_two_pow, mul_lt_mul_iff_left₀ hpos, mul_left_inj' hpos.ne']
    exact hr j hjr
  · -- the other value is below the power of two
    left
    have hzero : s ≠ 0 := by
      rintro rfl
      exact hdvd (Nat.one_dvd _)
    refine abs_sub_lt_of_lt_two_pow hr (hs.resolve_left hzero).2 ?_
    by_contra hnot
    exact hdvd (dvd_units (Nat.not_lt.1 hnot))

/-- A quotient is below the power of two after its highest bit. -/
theorem cast_div_lt_two_pow {n d k : Nat} (hd : 0 < d) (h : Nat.log2 (n / d) < k) :
    (n : Rat) / d < 2 ^ k := by
  have hlt : n / d < 2 ^ k :=
    Nat.lt_log2_self.trans_le (Nat.pow_le_pow_right (by decide) h)
  rw [div_lt_iff₀ (Nat.cast_pos.2 hd)]
  exact_mod_cast (Nat.div_lt_iff_lt_mul hd).1 hlt

/-- A quotient is at least the power of two of its highest bit. -/
theorem two_pow_le_cast_div {n d k : Nat} (hd : 0 < d) (hk : 0 < k)
    (h : k ≤ Nat.log2 (n / d)) : (2 : Rat) ^ k ≤ n / d := by
  have hne : n / d ≠ 0 := by
    intro hzero
    rw [hzero] at h
    exact absurd (hk.trans_le h) (by decide)
  have hle : 2 ^ k ≤ n / d := (Nat.pow_le_pow_right (by decide) h).trans (Nat.log2_self_le hne)
  rw [le_div_iff₀ (Nat.cast_pos.2 hd)]
  exact_mod_cast (Nat.le_div_iff_mul_le hd).1 hle

/-- The code of the value nearest to `n / d`, without a largest one. -/
def unboundedCode (n d : Nat) : Nat :=
  let scaled := n * unitsPerOne
  let shift := Nat.log2 (scaled / d) - fractionBits
  shift * 2 ^ fractionBits + roundHalfEven scaled (d * 2 ^ shift)

theorem nearestCode_eq (n d : Nat) : nearestCode n d = min (unboundedCode n d) infinityCode := rfl

theorem isNearest_units_unboundedCode (n : Nat) {d : Nat} (hd : 0 < d) :
    IsNearest (fun code => (units code : Rat)) ((n * unitsPerOne : Nat) / d)
      (unboundedCode n d) := by
  let scaled := n * unitsPerOne
  let s := Nat.log2 (scaled / d) - 52
  let r := roundHalfEven scaled (d * 2 ^ s)
  have hpos : (0 : Rat) < 2 ^ s := by positivity
  have hr : IsNearest (fun k => (k : Rat)) ((scaled : Rat) / d / 2 ^ s) r := by
    have hround := isNearest_roundHalfEven scaled (Nat.mul_pos hd (Nat.two_pow_pos s))
    rwa [Nat.cast_mul d, Nat.cast_pow, Nat.cast_ofNat, ← div_div] at hround
  have hhigh : r ≤ 2 ^ 53 := by
    refine hr.mono strictMono_cast (isNearest_self strictMono_cast (2 ^ 53)) ?_
    rw [div_le_iff₀ hpos, Nat.cast_pow, Nat.cast_ofNat, ← pow_add]
    exact (cast_div_lt_two_pow hd (by omega)).le
  refine isNearest_units_of_step hr hhigh ?_
  rcases Nat.eq_zero_or_pos s with hzero | hs
  · exact Or.inl hzero
  · right
    have hlower : (2 : Rat) ^ (52 + s) ≤ scaled / d :=
      two_pow_le_cast_div hd (by omega) (by omega)
    refine ⟨?_, hlower⟩
    refine (isNearest_self strictMono_cast (2 ^ 52)).mono strictMono_cast hr ?_
    rw [le_div_iff₀ hpos, Nat.cast_pow, Nat.cast_ofNat, ← pow_add]
    exact hlower

theorem strictMono_magnitude : StrictMono magnitude := by
  intro a b hab
  rw [magnitude_eq, magnitude_eq]
  exact div_lt_div_of_pos_right (Nat.cast_lt.2 (strictMono_units hab)) unitsPerOne_pos

theorem isNearest_magnitude_unboundedCode (n : Nat) {d : Nat} (hd : 0 < d) :
    IsNearest magnitude ((n : Rat) / d) (unboundedCode n d) := by
  have hnearest := (isNearest_units_unboundedCode n hd).div_const unitsPerOne_pos
  have hvalue : ((n * unitsPerOne : Nat) : Rat) / d / (unitsPerOne : Nat) = n / d := by
    rw [Nat.cast_mul, div_right_comm, mul_div_cancel_right₀ _ unitsPerOne_pos.ne']
  rw [hvalue] at hnearest
  exact (funext magnitude_eq : magnitude = _) ▸ hnearest

/-! ## Rounding a decimal number -/

/-- The number is what correct rounding makes of a sign and an exact size: that of the code with the
nearest value, or infinity where this code is beyond the finite ones. -/
def RoundsTo (negative : Bool) (size : Rat) (x : Binary64) : Prop :=
  ∃ code, IsNearest magnitude size code ∧ x = ofCode negative code

theorem RoundsTo.unique {negative : Bool} {size : Rat} {x y : Binary64}
    (hx : RoundsTo negative size x) (hy : RoundsTo negative size y) : x = y := by
  obtain ⟨a, ha, rfl⟩ := hx
  obtain ⟨b, hb, rfl⟩ := hy
  rw [ha.unique strictMono_magnitude hb]

theorem ofCode_of_le {code : Nat} (h : infinityCode ≤ code) (negative : Bool) :
    ofCode negative code = infinite negative := by
  rw [ofCode, dif_neg (Nat.not_lt.2 h)]

theorem ofCode_min (negative : Bool) (code : Nat) :
    ofCode negative (min code infinityCode) = ofCode negative code := by
  rcases Nat.le_total code infinityCode with h | h
  · rw [Nat.min_eq_left h]
  · rw [Nat.min_eq_right h, ofCode_of_le h, ofCode_of_le le_rfl]

theorem magnitude_zero : magnitude 0 = 0 := by
  rw [magnitude_eq, units_of_lt (by decide), Nat.cast_zero, zero_div]

theorem magnitude_one : magnitude 1 = 1 / 2 ^ 1074 := by
  rw [magnitude_eq, units_of_lt (by decide), cast_unitsPerOne, Nat.cast_one]

theorem magnitude_infinityCode : magnitude infinityCode = 2 ^ 1024 := by
  have hcode : infinityCode = 2046 * 2 ^ 52 + 2 ^ 52 := by decide
  rw [magnitude_eq, hcode, units_scaled le_rfl (by decide), div_eq_iff unitsPerOne_pos.ne',
    cast_unitsPerOne]
  simp only [Nat.cast_pow, Nat.cast_ofNat, ← pow_add]

/-- Below half of the smallest positive value everything is rounded to zero. -/
theorem isNearest_magnitude_zero {v : Rat} (h0 : 0 ≤ v) (h : 2 * v < magnitude 1) :
    IsNearest magnitude v 0 := by
  intro m hm
  left
  have hle : magnitude 1 ≤ magnitude m := strictMono_magnitude.monotone (by omega)
  rw [magnitude_zero, sub_zero, abs_of_nonneg h0, abs_sub_comm, abs_of_pos (by linarith)]
  linarith

/-- A decimal number as a quotient of natural numbers. -/
theorem cast_div_pow (digits : Nat) (exponent : Int) :
    ((digits * 10 ^ exponent.toNat : Nat) : Rat) / (10 ^ (-exponent).toNat : Nat) =
      digits * 10 ^ exponent := by
  obtain ⟨k, rfl | rfl⟩ := exponent.eq_nat_or_neg
  · rw [Int.toNat_natCast, Int.toNat_neg_natCast, Nat.pow_zero, Nat.cast_one, div_one,
      Nat.cast_mul, Nat.cast_pow, Nat.cast_ofNat, zpow_natCast]
  · rw [Int.toNat_neg_natCast, neg_neg, Int.toNat_natCast, Nat.pow_zero, Nat.mul_one,
      Nat.cast_pow, Nat.cast_ofNat, zpow_neg, zpow_natCast, div_eq_mul_inv]

theorem two_pow_le_ten_pow {k n : Nat} (h : 2 ^ k ≤ 10 ^ n) : (2 : Rat) ^ k ≤ 10 ^ n := by
  exact_mod_cast h

/-- A power of ten from `10 ^ 310` on is above every finite value. -/
theorem magnitude_infinityCode_le {digits : Nat} {exponent : Int} (hdigits : digits ≠ 0)
    (h : 310 ≤ exponent) : magnitude infinityCode ≤ digits * 10 ^ exponent := by
  have hone : (1 : Rat) ≤ digits := Nat.one_le_cast.2 (Nat.pos_of_ne_zero hdigits)
  have hten : (0 : Rat) < 10 ^ exponent := by positivity
  calc magnitude infinityCode = 2 ^ 1024 := magnitude_infinityCode
    _ ≤ 10 ^ ((310 : Nat) : Int) := by
        rw [zpow_natCast]
        exact two_pow_le_ten_pow (by decide +kernel)
    _ ≤ 10 ^ exponent := zpow_le_zpow_right₀ (by norm_num) h
    _ ≤ digits * 10 ^ exponent := le_mul_of_one_le_left hten.le hone

/-- The power `10 ^ (-342)` is below half of the smallest positive value. -/
theorem two_mul_ten_zpow_le_magnitude_one : 2 * (10 : Rat) ^ (-342 : Int) ≤ magnitude 1 := by
  have hpow : (2 : Rat) ^ 1075 ≤ 10 ^ 342 := two_pow_le_ten_pow (by decide +kernel)
  rw [magnitude_one, zpow_neg, ← div_eq_mul_inv, div_le_div_iff₀ (by positivity) (by positivity),
    one_mul, ← pow_succ', zpow_ofNat]
  exact hpow

/-- A number below `10 ^ (-400)` is below half of the smallest positive value. -/
theorem two_mul_lt_magnitude_one {digits : Nat} {exponent : Int}
    (h : exponent + Nat.log2 digits + 1 ≤ -400) : 2 * (digits * 10 ^ exponent) < magnitude 1 := by
  have hten : (0 : Rat) < 10 ^ exponent := by positivity
  have hdigits : (digits : Rat) < 10 ^ ((Nat.log2 digits + 1 : Nat) : Int) := by
    have hlt : digits < 10 ^ (Nat.log2 digits + 1) :=
      Nat.lt_log2_self.trans_le (Nat.pow_le_pow_left (by decide) _)
    rw [zpow_natCast]
    exact_mod_cast hlt
  have hsize : (digits : Rat) * 10 ^ exponent < 10 ^ (-342 : Int) := by
    calc (digits : Rat) * 10 ^ exponent
        < 10 ^ ((Nat.log2 digits + 1 : Nat) : Int) * 10 ^ exponent :=
          mul_lt_mul_of_pos_right hdigits hten
      _ = 10 ^ (((Nat.log2 digits + 1 : Nat) : Int) + exponent) :=
          (zpow_add₀ (by norm_num) _ _).symm
      _ ≤ 10 ^ (-342 : Int) := by
          refine zpow_le_zpow_right₀ (by norm_num) ?_
          push_cast
          omega
  exact (mul_lt_mul_of_pos_left hsize two_pos).trans_le two_mul_ten_zpow_le_magnitude_one

/-- A decimal number is rounded correctly, also where its power of ten is not computed. -/
theorem roundsTo_decimalCode (negative : Bool) (digits : Nat) (exponent : Int) :
    RoundsTo negative (digits * 10 ^ exponent) (ofCode negative (decimalCode digits exponent)) := by
  let code := unboundedCode (digits * 10 ^ exponent.toNat) (10 ^ (-exponent).toNat)
  have hnearest : IsNearest magnitude (digits * 10 ^ exponent) code := by
    rw [← cast_div_pow]
    exact isNearest_magnitude_unboundedCode _ (Nat.pow_pos (by decide))
  refine ⟨code, hnearest, ?_⟩
  unfold decimalCode
  split
  · rename_i hzero
    rw [hzero, Nat.cast_zero, zero_mul, ← magnitude_zero] at hnearest
    rw [hnearest.unique strictMono_magnitude (isNearest_self strictMono_magnitude 0)]
  rename_i hdigits
  split
  · rename_i hlarge
    have hbeyond : infinityCode ≤ code :=
      (isNearest_self strictMono_magnitude infinityCode).mono strictMono_magnitude hnearest
        (magnitude_infinityCode_le hdigits (by omega))
    rw [ofCode_of_le le_rfl, ofCode_of_le hbeyond]
  split
  · rename_i hsmall
    have hzero : IsNearest magnitude (digits * 10 ^ exponent) 0 :=
      isNearest_magnitude_zero (by positivity) (two_mul_lt_magnitude_one hsmall)
    rw [hnearest.unique strictMono_magnitude hzero]
  · rw [nearestCode_eq, ofCode_min]

end MonitorKeys.Binary64
