import MonitorKeys.Delay.Shortest
import MonitorKeys.Proofs.Delay.Binary64

/-!
# The shortest decimal of a number

The decimal that a number is shown by reads back as this number.

* `readsBack_iff` says that the comparisons of the search are those of correct rounding.
* `gridFloor` is the last point of a grid up to a value, and `gridPoint?_ne_none` says that it or
  the next one reads back if any point of the grid does.
* `gridPoint?_finest_ne_none` is the grid on which the search ends at the latest.
* `isNearest_shortest` says that the decimal that the search finds reads back.
-/

namespace MonitorKeys.Binary64

/-! ## Points of a grid -/

section Grid

variable {n p code : Nat} {g : Int}

theorem gridUnit_pos (g : Int) : (0 : Rat) < (unitsPerOne : Nat) * (gridScale g : Nat) :=
  mul_pos unitsPerOne_pos (Nat.cast_pos.2 (Nat.pow_pos (by decide)))

theorem cast_mul_gridScale (n : Nat) (g : Int) :
    ((n * gridScale g : Nat) : Rat) =
      n / (unitsPerOne : Nat) * ((unitsPerOne : Nat) * (gridScale g : Nat)) := by
  rw [← mul_assoc, div_mul_cancel₀ _ unitsPerOne_pos.ne', Nat.cast_mul]

theorem cast_mul_gridStep (p : Nat) (g : Int) :
    ((p * gridStep g : Nat) : Rat) =
      2 * (p * 10 ^ g) * ((unitsPerOne : Nat) * (gridScale g : Nat)) := by
  have hscale : ((gridScale g : Nat) : Rat) ≠ 0 :=
    Nat.cast_ne_zero.2 (Nat.pow_pos (by decide)).ne'
  have hpoint : (p : Rat) * 10 ^ g * (gridScale g : Nat) = (p * 10 ^ g.toNat : Nat) := by
    rw [← cast_div_pow]
    exact div_mul_cancel₀ _ hscale
  calc ((p * gridStep g : Nat) : Rat)
      = 2 * (unitsPerOne : Nat) * (p * 10 ^ g.toNat : Nat) := by
        rw [gridStep]
        push_cast
        ring
    _ = 2 * (p * 10 ^ g) * ((unitsPerOne : Nat) * (gridScale g : Nat)) := by
        rw [← hpoint]
        ring

/-- The comparisons of a grid are those of the numbers. -/
theorem mul_gridScale_le_iff :
    n * gridScale g ≤ p * gridStep g ↔ (n : Rat) / (unitsPerOne : Nat) ≤ 2 * (p * 10 ^ g) := by
  rw [← mul_le_mul_iff_left₀ (gridUnit_pos g), ← cast_mul_gridScale, ← cast_mul_gridStep,
    Nat.cast_le]

theorem mul_gridStep_le_iff :
    p * gridStep g ≤ n * gridScale g ↔ 2 * (p * 10 ^ g) ≤ (n : Rat) / (unitsPerOne : Nat) := by
  rw [← mul_le_mul_iff_left₀ (gridUnit_pos g), ← cast_mul_gridScale, ← cast_mul_gridStep,
    Nat.cast_le]

theorem cast_add_units_div (a b : Nat) :
    ((units a + units b : Nat) : Rat) / (unitsPerOne : Nat) = magnitude a + magnitude b := by
  rw [Nat.cast_add, add_div, magnitude_eq, magnitude_eq]

/-- A grid point passes the test exactly when a positive code is nearest to it. -/
theorem readsBack_iff (hcode : 0 < code) :
    readsBack code g p = true ↔ IsNearest magnitude (p * 10 ^ g) code := by
  obtain ⟨k, rfl⟩ := Nat.exists_eq_succ_of_ne_zero hcode.ne'
  rw [Nat.succ_eq_add_one, isNearest_succ_iff strictMono_magnitude, below_even_iff, below_even_iff,
    readsBack, Nat.add_sub_cancel]
  by_cases heven : (k + 1) % 2 = 0
  · simp only [heven, if_true, Bool.and_eq_true, decide_eq_true_eq, mul_gridScale_le_iff,
      mul_gridStep_le_iff, cast_add_units_div]
  · simp only [heven, if_false, Bool.and_eq_true, decide_eq_true_eq, ← not_le,
      mul_gridScale_le_iff, mul_gridStep_le_iff, cast_add_units_div]

/-! ## The two neighbours of a value -/

/-- The last point of a grid up to the value of a code. -/
def gridFloor (code : Nat) (g : Int) : Nat :=
  2 * units code * gridScale g / gridStep g

theorem gridStep_pos (g : Int) : 0 < gridStep g :=
  Nat.mul_pos (Nat.mul_pos two_pos (Nat.cast_pos.1 unitsPerOne_pos)) (Nat.pow_pos (by decide))

theorem gridFloor_le (code : Nat) (g : Int) :
    (gridFloor code g : Rat) * 10 ^ g ≤ magnitude code := by
  have hfloor : gridFloor code g * gridStep g ≤ (units code + units code) * gridScale g := by
    rw [← Nat.two_mul]
    exact Nat.div_mul_le_self _ _
  rw [mul_gridStep_le_iff, cast_add_units_div] at hfloor
  linarith

theorem lt_gridFloor_succ (code : Nat) (g : Int) :
    magnitude code < (gridFloor code g + 1 : Nat) * 10 ^ g := by
  have hnext : ¬ (gridFloor code g + 1) * gridStep g ≤ (units code + units code) * gridScale g := by
    rw [← Nat.two_mul, Nat.not_le]
    exact Nat.lt_mul_of_div_lt (Nat.lt_succ_self _) (gridStep_pos g)
  rw [mul_gridStep_le_iff, cast_add_units_div] at hnext
  linarith

/-- The point that is chosen reads back. -/
theorem isNearest_of_gridPoint? (hcode : 0 < code) (h : gridPoint? code g = some p) :
    IsNearest magnitude (p * 10 ^ g) code := by
  rw [← readsBack_iff hcode]
  simp only [gridPoint?] at h
  split at h
  · rename_i hbelow habove
    rw [Option.some.injEq] at h
    rw [← h]
    split
    · exact hbelow
    · exact habove
  · rename_i hbelow habove
    cases h
    exact hbelow
  · rename_i hbelow habove
    cases h
    exact habove
  · cases h

/-- Where any point of a grid reads back, one of the two neighbours of the value does. -/
theorem gridPoint?_ne_none (hcode : 0 < code) (h : IsNearest magnitude (p * 10 ^ g) code) :
    gridPoint? code g ≠ none := by
  have hself := isNearest_self strictMono_magnitude code
  have hten : (0 : Rat) < 10 ^ g := by positivity
  have hneighbour : readsBack code g (gridFloor code g) = true ∨
      readsBack code g (gridFloor code g + 1) = true := by
    rw [readsBack_iff hcode, readsBack_iff hcode]
    rcases Nat.lt_or_ge (gridFloor code g) p with hlt | hle
    · right
      refine hself.of_between strictMono_magnitude h (lt_gridFloor_succ code g).le ?_
      exact mul_le_mul_of_nonneg_right (Nat.cast_le.2 hlt) hten.le
    · left
      refine h.of_between strictMono_magnitude hself ?_ (gridFloor_le code g)
      exact mul_le_mul_of_nonneg_right (Nat.cast_le.2 hle) hten.le
  intro hnone
  simp only [gridPoint?] at hnone
  split at hnone
  · cases hnone
  · cases hnone
  · cases hnone
  · rename_i hbelow habove
    rcases hneighbour with hread | hread
    · exact Bool.false_ne_true (hbelow.symm.trans hread)
    · exact Bool.false_ne_true (habove.symm.trans hread)

end Grid

/-! ## The search -/

theorem finest_mem_gridExponents : (-342 : Int) ∈ gridExponents :=
  List.mem_map.2 ⟨651, List.mem_range.2 (by decide), by decide⟩

/-- Two neighbouring values are at least as far apart as zero and the smallest positive value. -/
theorem magnitude_add_magnitude_one_le (k : Nat) :
    magnitude k + magnitude 1 ≤ magnitude (k + 1) := by
  have hone : units 1 = 1 := units_of_lt (by decide)
  have hunits : units k + units 1 ≤ units (k + 1) := by
    rw [hone]
    exact strictMono_units (Nat.lt_succ_self k)
  rw [← cast_add_units_div, magnitude_eq]
  exact div_le_div_of_nonneg_right (Nat.cast_le.2 hunits) unitsPerOne_pos.le

/-- The finest grid has a point for every positive code, since its step is below half of the
distance between any two values. -/
theorem gridPoint?_finest_ne_none {code : Nat} (hcode : 0 < code) :
    gridPoint? code (-342) ≠ none := by
  have hstep := two_mul_ten_zpow_le_magnitude_one
  have hfloor := gridFloor_le code (-342)
  have hnext := lt_gridFloor_succ code (-342)
  rw [Nat.cast_add, Nat.cast_one, add_mul, one_mul] at hnext
  refine gridPoint?_ne_none hcode (p := gridFloor code (-342)) ?_
  obtain ⟨k, rfl⟩ := Nat.exists_eq_succ_of_ne_zero hcode.ne'
  have hgap := magnitude_add_magnitude_one_le k
  have hlt : magnitude (k + 1) < magnitude (k + 2) := strictMono_magnitude (Nat.lt_succ_self _)
  rw [Nat.succ_eq_add_one, isNearest_succ_iff strictMono_magnitude]
  exact ⟨Or.inl (by linarith), Or.inl (by linarith)⟩

/-- The search ends at a grid with a point that reads back. -/
theorem gridPoint?_shortest {code : Nat} (hcode : 0 < code) :
    gridPoint? code (shortest code).2 = some (shortest code).1 := by
  have hsome : (gridExponents.findSome? fun g => (gridPoint? code g).map (·, g)).isSome := by
    rw [List.findSome?_isSome_iff]
    refine ⟨-342, finest_mem_gridExponents, ?_⟩
    rw [Option.isSome_map, Option.isSome_iff_ne_none]
    exact gridPoint?_finest_ne_none hcode
  obtain ⟨found, hfound⟩ := Option.isSome_iff_exists.1 hsome
  rw [shortest, hfound, Option.getD_some]
  obtain ⟨g, -, hg⟩ := List.exists_of_findSome?_eq_some hfound
  obtain ⟨p, hpoint, rfl⟩ := Option.map_eq_some_iff.1 hg
  exact hpoint

/-- The shortest decimal of a positive code reads back as this code. -/
theorem isNearest_shortest {code : Nat} (hcode : 0 < code) :
    IsNearest magnitude ((shortest code).1 * 10 ^ (shortest code).2) code :=
  isNearest_of_gridPoint? hcode (gridPoint?_shortest hcode)

end MonitorKeys.Binary64
