import MonitorKeys.Log.Setting

/-!
# What log settings admit

* `Directive.Decides` says which of some directives decides, and `deciding?_eq_some_iff` that this
  one is found.
* `admits_filter_iff` says which records are logged.
* `filter_whole` is a level by itself, without a target and without a pattern.
-/

namespace MonitorKeys.Log

/-! ## The directive that decides -/

namespace Directive

/-- The last one of the directives with the longest name. -/
def Decides (found : Directive) (ds : List Directive) : Prop :=
  ∃ before after, ds = before ++ found :: after ∧ (∀ d ∈ before, d.weight ≤ found.weight) ∧
    ∀ d ∈ after, d.weight < found.weight

/-- Where there are directives one of them decides. -/
theorem exists_decides {ds : List Directive} (h : ds ≠ []) : ∃ found, Decides found ds := by
  induction ds with
  | nil => exact absurd rfl h
  | cons d ds ih =>
    by_cases hds : ds = []
    · exact ⟨d, [], [], by rw [hds]; rfl, by simp, by simp⟩
    · obtain ⟨found, before, after, rfl, hbefore, hafter⟩ := ih hds
      by_cases hd : d.weight ≤ found.weight
      · exact ⟨found, d :: before, after, rfl, List.forall_mem_cons.2 ⟨hd, hbefore⟩, hafter⟩
      · refine ⟨d, [], _, rfl, by simp, List.forall_mem_append.2 ⟨fun e he => ?_, ?_⟩⟩
        · have := hbefore e he
          omega
        · refine List.forall_mem_cons.2 ⟨by omega, fun e he => ?_⟩
          have := hafter e he
          omega

variable {ds : List Directive} {best : Option Directive} {d found : Directive} {n : Nat}

theorem heavier_of_le (h : ∀ b, best = some b → b.weight ≤ d.weight) : heavier best d = d := by
  cases best with
  | none => rfl
  | some b => exact if_pos (h b rfl)

theorem weight_heavier_le (hbest : ∀ b, best = some b → b.weight ≤ n) (hd : d.weight ≤ n) :
    (heavier best d).weight ≤ n := by
  cases best with
  | none => exact hd
  | some b =>
    rw [heavier]
    split
    · exact hd
    · exact hbest b rfl

theorem foldl_heavier_le (hbest : ∀ b, best = some b → b.weight ≤ n)
    (hds : ∀ d ∈ ds, d.weight ≤ n) :
    ∀ b, ds.foldl (fun best d => some (heavier best d)) best = some b → b.weight ≤ n := by
  induction ds generalizing best with
  | nil => exact hbest
  | cons d ds ih =>
    obtain ⟨hd, hrest⟩ := List.forall_mem_cons.1 hds
    refine ih (fun b hb => ?_) hrest
    obtain rfl := Option.some.inj hb
    exact weight_heavier_le hbest hd

theorem foldl_heavier_of_lt (h : ∀ d ∈ ds, d.weight < found.weight) :
    ds.foldl (fun best d => some (heavier best d)) (some found) = some found := by
  induction ds with
  | nil => rfl
  | cons d ds ih =>
    obtain ⟨hd, hrest⟩ := List.forall_mem_cons.1 h
    have hfirst : heavier (some found) d = found := if_neg (by omega)
    rw [List.foldl_cons, hfirst]
    exact ih hrest

theorem foldl_heavier_of_decides (h : Decides found ds) :
    ds.foldl (fun best d => some (heavier best d)) none = some found := by
  obtain ⟨before, after, rfl, hbefore, hafter⟩ := h
  have hle : ∀ b, before.foldl (fun best d => some (heavier best d)) none = some b →
      b.weight ≤ found.weight :=
    foldl_heavier_le (by simp) hbefore
  rw [List.foldl_append, List.foldl_cons, heavier_of_le hle]
  exact foldl_heavier_of_lt hafter

theorem deciding?_eq_some_iff {target : Target} :
    deciding? ds target = some found ↔ Decides found (ds.filter (·.covers target)) := by
  constructor
  · intro h
    have hne : ds.filter (·.covers target) ≠ [] := by
      intro hnil
      rw [deciding?, hnil] at h
      cases h
    obtain ⟨other, hother⟩ := exists_decides hne
    obtain rfl : other = found := Option.some.inj ((foldl_heavier_of_decides hother).symm.trans h)
    exact hother
  · exact foldl_heavier_of_decides

end Directive

/-! ## Records -/

namespace Setting

theorem allows_threshold_iff {setting : Setting} {target : Target} {level : Level} :
    (setting.threshold target).allows level = true ↔
      ∃ d, Directive.Decides d (setting.directives.filter (·.covers target)) ∧
        d.threshold.allows level = true := by
  simp only [← Directive.deciding?_eq_some_iff]
  rw [threshold]
  cases Directive.deciding? setting.directives target with
  | none => simp [Threshold.allows]
  | some d => simp

/-- A record is logged when the directive that decides about its target allows its level, and its
text has a match of the pattern. -/
theorem admits_filter_iff {setting : Setting} {record : Record} :
    setting.filter.admits record = true ↔
      (∃ d, Directive.Decides d (setting.directives.filter (·.covers record.target)) ∧
          d.threshold.allows record.level = true) ∧
        ∀ r, setting.pattern = some r → r.isIn record.text.toList = true := by
  rw [filter, Bool.and_eq_true_iff, allows_threshold_iff]
  refine and_congr_right fun _ => ?_
  cases setting.pattern <;> simp

/-- One directive for all targets is a level. -/
theorem filter_whole (threshold : Threshold) :
    filter ⟨[⟨none, threshold⟩], none⟩ = .upTo threshold :=
  congrArg Filter.mk (funext fun _ => Bool.and_true _)

end Setting

end MonitorKeys.Log
