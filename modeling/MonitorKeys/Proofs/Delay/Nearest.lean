import Mathlib.Algebra.Order.Field.Basic
import Mathlib.Algebra.Order.Field.Rat
import Mathlib.Tactic.FieldSimp
import Mathlib.Tactic.Linarith
import MonitorKeys.Delay.Rounding

/-!
# The nearest point of a scale

Both roundings of a delay go to a scale, which is an increasing sequence of rational numbers: the
values of the codes of binary64 numbers, and the whole numbers of nanoseconds.

* `IsNearest scale v n` says that the point number `n` is nearest to `v`, and of two that are
  equally near the one with the even number.
* `IsNearest.mono` says that a larger number has no earlier point, across ties as well, and
  `IsNearest.unique` that there is at most one nearest point.
* `isNearest_cast_of_abs_le` finds the nearest whole number from a bound of one half, and
  `isNearest_roundHalfEven` is the case of a rounded quotient.
* `isNearest_succ_iff` gives the numbers that a point is nearest to by the middles to its two
  neighbours, and `IsNearest.of_between` says that these numbers are an interval.
-/

namespace MonitorKeys

variable {scale : Nat → Rat} {v w : Rat} {n m : Nat}

/-- The point number `n` of a scale is nearest to `v`.  Where another one is as near, `n` is
even. -/
def IsNearest (scale : Nat → Rat) (v : Rat) (n : Nat) : Prop :=
  ∀ m, m ≠ n →
    |v - scale n| < |v - scale m| ∨ |v - scale n| = |v - scale m| ∧ Even n

/-- Of two points the upper one is as near from the middle between them on. -/
theorem abs_sub_upper_le_iff {p q : Rat} (h : p < q) : |v - q| ≤ |v - p| ↔ p + q ≤ 2 * v := by
  rcases abs_cases (v - q) with ⟨hq, _⟩ | ⟨hq, _⟩ <;>
    rcases abs_cases (v - p) with ⟨hp, _⟩ | ⟨hp, _⟩ <;>
      rw [hq, hp] <;> constructor <;> intro <;> linarith

/-- Of two points the lower one is as near up to the middle between them. -/
theorem abs_sub_lower_le_iff {p q : Rat} (h : p < q) : |v - p| ≤ |v - q| ↔ 2 * v ≤ p + q := by
  rcases abs_cases (v - q) with ⟨hq, _⟩ | ⟨hq, _⟩ <;>
    rcases abs_cases (v - p) with ⟨hp, _⟩ | ⟨hp, _⟩ <;>
      rw [hq, hp] <;> constructor <;> intro <;> linarith

namespace IsNearest

/-- No other point is nearer. -/
theorem abs_le (h : IsNearest scale v n) (m : Nat) : |v - scale n| ≤ |v - scale m| := by
  by_cases hm : m = n
  · rw [hm]
  · rcases h m hm with hlt | ⟨heq, -⟩
    · exact hlt.le
    · exact heq.le

/-- Where another point is as near, the number is even. -/
theorem even_of_abs_le (h : IsNearest scale v n) (hm : m ≠ n)
    (hle : |v - scale m| ≤ |v - scale n|) : Even n := by
  rcases h m hm with hlt | ⟨-, heven⟩
  · exact absurd hle (not_le.2 hlt)
  · exact heven

/-- A larger number has no earlier nearest point. -/
theorem mono (hscale : StrictMono scale) (hn : IsNearest scale v n) (hm : IsNearest scale w m)
    (hvw : v ≤ w) : n ≤ m := by
  by_contra hnot
  have hlt : m < n := by omega
  have hpoints : scale m < scale n := hscale hlt
  have hv : scale m + scale n ≤ 2 * v := (abs_sub_upper_le_iff hpoints).1 (hn.abs_le m)
  have hw : 2 * w ≤ scale m + scale n := (abs_sub_lower_le_iff hpoints).1 (hm.abs_le n)
  -- so both are the middle of the two points, and both numbers are even
  have hneven : Even n :=
    hn.even_of_abs_le hlt.ne ((abs_sub_lower_le_iff hpoints).2 (by linarith))
  have hmeven : Even m :=
    hm.even_of_abs_le hlt.ne' ((abs_sub_upper_le_iff hpoints).2 (by linarith))
  -- then a point between them is nearer to the middle than the upper one
  have hbetween : m + 1 < n := by
    obtain ⟨a, rfl⟩ := hneven
    obtain ⟨b, rfl⟩ := hmeven
    omega
  have hinner := (abs_sub_upper_le_iff (hscale hbetween)).1 (hn.abs_le (m + 1))
  have hstep : scale m < scale (m + 1) := hscale (Nat.lt_succ_self m)
  linarith

theorem unique (hscale : StrictMono scale) (hn : IsNearest scale v n) (hm : IsNearest scale v m) :
    n = m :=
  Nat.le_antisymm (hn.mono hscale hm le_rfl) (hm.mono hscale hn le_rfl)

/-- The nearest point stays the same in other units. -/
theorem div_const {unit : Rat} (hunit : 0 < unit) (h : IsNearest scale v n) :
    IsNearest (fun k => scale k / unit) (v / unit) n := by
  intro m hm
  have habs (k : Nat) : |v / unit - scale k / unit| = |v - scale k| / unit := by
    rw [← sub_div, abs_div, abs_of_pos hunit]
  rw [habs n, habs m, div_lt_div_iff_of_pos_right hunit, div_left_inj' hunit.ne']
  exact h m hm

end IsNearest

/-- A point of the scale is nearest to itself. -/
theorem isNearest_self (hscale : StrictMono scale) (n : Nat) : IsNearest scale (scale n) n := by
  intro m hm
  left
  have hne : scale n - scale m ≠ 0 := sub_ne_zero.2 (hscale.injective.ne hm.symm)
  rw [sub_self, abs_zero]
  exact abs_pos.2 hne

/-! ## Whole numbers -/

theorem strictMono_cast : StrictMono fun k : Nat => (k : Rat) :=
  fun _ _ h => Nat.cast_lt.2 h

/-- A whole number that is off by at most a half is nearest, if it is even in case of a half. -/
theorem isNearest_cast_of_abs_le (hle : |v - n| ≤ 1 / 2) (heven : |v - n| = 1 / 2 → Even n) :
    IsNearest (fun k => (k : Rat)) v n := by
  intro m hm
  have hapart : (1 : Rat) ≤ |(n : Rat) - m| := by
    have hint : (1 : Int) ≤ |(n : Int) - m| := Int.one_le_abs (by omega)
    exact_mod_cast hint
  have htriangle : |(n : Rat) - m| ≤ |v - n| + |v - m| := by
    have h := abs_sub_abs_le_abs_sub (v - m) (v - n)
    have hsum := abs_sub (v - m) (v - n)
    rw [sub_sub_sub_cancel_left] at hsum
    linarith
  rcases hle.lt_or_eq with hlt | heq
  · left
    linarith
  · rcases (show |v - n| ≤ |v - m| by linarith).lt_or_eq with hnear | hsame
    · exact Or.inl hnear
    · exact Or.inr ⟨hsame, heven heq⟩

/-- A quotient that is halfway between two whole numbers is rounded to the even one. -/
theorem even_roundHalfEven {d : Nat} (hd : 0 < d)
    (h : 2 * n + d = 2 * (roundHalfEven n d * d) ∨ 2 * n = 2 * (roundHalfEven n d * d) + d) :
    Even (roundHalfEven n d) := by
  have hdiv := Nat.div_add_mod n d
  have hmul : n / d * d = d * (n / d) := Nat.mul_comm ..
  have hlt := Nat.mod_lt n hd
  rw [Nat.even_iff]
  revert h
  simp only [roundHalfEven]
  split
  · omega
  · rw [Nat.add_mul, Nat.one_mul]
    omega

/-- A rounded quotient is the whole number nearest to it. -/
theorem isNearest_roundHalfEven (n : Nat) {d : Nat} (hd : 0 < d) :
    IsNearest (fun k => (k : Rat)) ((n : Rat) / d) (roundHalfEven n d) := by
  have hd' : (0 : Rat) < d := Nat.cast_pos.2 hd
  have hupper : 2 * ((roundHalfEven n d : Rat) * d) ≤ 2 * n + d := by
    exact_mod_cast roundHalfEven_le (n := n) hd
  have hlower : 2 * (n : Rat) ≤ 2 * ((roundHalfEven n d : Rat) * d) + d := by
    exact_mod_cast le_roundHalfEven (n := n) hd
  have herror : (n : Rat) / d - roundHalfEven n d = (n - roundHalfEven n d * d) / d := by
    field_simp
  apply isNearest_cast_of_abs_le
  · rw [herror, abs_div, abs_of_pos hd', div_le_iff₀ hd', abs_le]
    constructor <;> linarith
  · intro htie
    rw [herror, abs_div, abs_of_pos hd', div_eq_iff hd'.ne'] at htie
    apply even_roundHalfEven hd
    rcases abs_cases ((n : Rat) - roundHalfEven n d * d) with ⟨hcase, _⟩ | ⟨hcase, _⟩
    · right
      have heq : 2 * (n : Rat) = 2 * (roundHalfEven n d * d) + d := by linarith
      exact_mod_cast heq
    · left
      have heq : 2 * (n : Rat) + d = 2 * (roundHalfEven n d * d) := by linarith
      exact_mod_cast heq

/-! ## The numbers with one nearest point -/

/-- Less than another number, or equal to it where that is allowed. -/
def Below (equal : Prop) (a b : Rat) : Prop :=
  a < b ∨ a = b ∧ equal

theorem Below.of_le {equal : Prop} {a b c d : Rat} (h : Below equal b c) (hab : a ≤ b)
    (hcd : c ≤ d) : Below equal a d := by
  rcases h with hlt | ⟨rfl, hequal⟩
  · exact Or.inl ((hab.trans_lt hlt).trans_le hcd)
  · rcases (hab.trans hcd).lt_or_eq with hlt | heq
    · exact Or.inl hlt
    · exact Or.inr ⟨heq, hequal⟩

theorem below_even_iff {a b : Rat} : Below (Even n) a b ↔ if n % 2 = 0 then a ≤ b else a < b := by
  rw [Below, Nat.even_iff]
  split
  · rename_i heven
    rw [and_iff_left heven, le_iff_lt_or_eq]
  · rename_i hodd
    simp [hodd]

/-- Of two points the upper one is preferred beyond the middle between them. -/
theorem below_abs_sub_upper_iff {p q : Rat} {equal : Prop} (h : p < q) :
    Below equal |v - q| |v - p| ↔ Below equal (p + q) (2 * v) := by
  rw [Below, Below, ← not_le, abs_sub_lower_le_iff h, not_le, le_antisymm_iff,
    abs_sub_upper_le_iff h, abs_sub_lower_le_iff h, ← le_antisymm_iff]

/-- Of two points the lower one is preferred before the middle between them. -/
theorem below_abs_sub_lower_iff {p q : Rat} {equal : Prop} (h : p < q) :
    Below equal |v - p| |v - q| ↔ Below equal (2 * v) (p + q) := by
  rw [Below, Below, ← not_le, abs_sub_upper_le_iff h, not_le, le_antisymm_iff,
    abs_sub_lower_le_iff h, abs_sub_upper_le_iff h, ← le_antisymm_iff]

/-- A point is nearest between the middles to its two neighbours. -/
theorem isNearest_succ_iff (hscale : StrictMono scale) :
    IsNearest scale v (n + 1) ↔
      Below (Even (n + 1)) (scale n + scale (n + 1)) (2 * v) ∧
        Below (Even (n + 1)) (2 * v) (scale (n + 1) + scale (n + 2)) := by
  constructor
  · intro h
    rw [← below_abs_sub_upper_iff (hscale (Nat.lt_succ_self n)),
      ← below_abs_sub_lower_iff (hscale (Nat.lt_succ_self (n + 1)))]
    exact ⟨h n (by omega), h (n + 2) (by omega)⟩
  · rintro ⟨hlow, hhigh⟩ m hm
    rcases Nat.lt_or_gt_of_ne hm with hlt | hgt
    · have hle : scale m ≤ scale n := hscale.monotone (Nat.le_of_lt_succ hlt)
      exact (below_abs_sub_upper_iff (hscale hlt)).2 (hlow.of_le (by linarith) le_rfl)
    · have hle : scale (n + 2) ≤ scale m := hscale.monotone hgt
      exact (below_abs_sub_lower_iff (hscale hgt)).2 (hhigh.of_le le_rfl (by linarith))

/-- The numbers with the same nearest point have no gap between them. -/
theorem IsNearest.of_between {u : Rat} (hscale : StrictMono scale) (hv : IsNearest scale v n)
    (hw : IsNearest scale w n) (hvu : v ≤ u) (huw : u ≤ w) : IsNearest scale u n := by
  intro m hm
  rcases Nat.lt_or_gt_of_ne hm with hlt | hgt
  · have hlow := (below_abs_sub_upper_iff (hscale hlt)).1 (hv m hm)
    exact (below_abs_sub_upper_iff (hscale hlt)).2 (hlow.of_le le_rfl (by linarith))
  · have hhigh := (below_abs_sub_lower_iff (hscale hgt)).1 (hw m hm)
    exact (below_abs_sub_lower_iff (hscale hgt)).2 (hhigh.of_le (by linarith) le_rfl)

end MonitorKeys
