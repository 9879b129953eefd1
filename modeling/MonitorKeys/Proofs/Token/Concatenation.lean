import Mathlib.Data.List.DropRight
import MonitorKeys.Proofs.Token.Scan

/-!
# Where a text may be cut

Reading a text in two pieces can differ from reading it at once: an opening bracket that stays open
in the first piece can begin an escape that ends in the second one.

* `afterLastClose` is the part of a text in which a bracket can still be open.
* `scan_append_of_settled` is the cut where no bracket is open.
* `exists_unclosed` finds the first open bracket, and `scan_append_unclosed_iff` says what it needs
  to stay a literal.
* `Separable` is the exact condition, and `tokenize_append_eq_iff` says so.
-/

namespace MonitorKeys

namespace Token

/-! ## The part after the last closing bracket -/

/-- The characters after the last closing bracket, and all of them where there is none. -/
def afterLastClose (cs : List Char) : List Char :=
  cs.rtakeWhile (· ≠ '>')

/-- Characters that are no closing brackets stay in view at the end. -/
theorem afterLastClose_append_of_notMem (a : List Char) {b : List Char} (h : '>' ∉ b) :
    afterLastClose (a ++ b) = afterLastClose a ++ b := by
  induction b using List.reverseRecOn with
  | nil => simp
  | append_singleton b c ih =>
    rw [List.mem_append, not_or, List.mem_singleton] at h
    have hc : decide (c ≠ '>') = true := by simpa using Ne.symm h.2
    rw [← List.append_assoc, afterLastClose, List.rtakeWhile_concat, if_pos hc, ← afterLastClose,
      ih h.1, List.append_assoc]

/-- A closing bracket hides what stands before it. -/
theorem afterLastClose_append_close (a b : List Char) :
    afterLastClose (a ++ '>' :: b) = afterLastClose b := by
  induction b using List.reverseRecOn with
  | nil => simp [afterLastClose]
  | append_singleton b c ih =>
    rw [show a ++ '>' :: (b ++ [c]) = (a ++ '>' :: b) ++ [c] by simp, afterLastClose,
      afterLastClose, List.rtakeWhile_concat, List.rtakeWhile_concat, ← afterLastClose,
      ← afterLastClose, ih]

theorem afterLastClose_of_notMem {cs : List Char} (h : '>' ∉ cs) : afterLastClose cs = cs := by
  have hwhole := afterLastClose_append_of_notMem [] h
  simpa [afterLastClose] using hwhole

/-- A character in front can only add to the part after the last closing bracket. -/
theorem mem_afterLastClose_cons {x c : Char} {cs : List Char} (h : x ∈ afterLastClose cs) :
    x ∈ afterLastClose (c :: cs) := by
  by_cases hclose : '>' ∈ cs
  · obtain ⟨before, after, rfl, -⟩ := List.eq_append_cons_of_mem hclose
    rw [afterLastClose_append_close] at h
    rwa [← List.cons_append, afterLastClose_append_close]
  · rw [afterLastClose_of_notMem hclose] at h
    rw [show c :: cs = [c] ++ cs from rfl, afterLastClose_append_of_notMem _ hclose]
    exact List.mem_append_right _ h

/-- The first bracket that is open at the end of a text: before it none is open, and after it there
is no closing bracket. -/
theorem exists_unclosed {cs : List Char} (h : '<' ∈ afterLastClose cs) :
    ∃ before after, cs = before ++ '<' :: after ∧ '<' ∉ afterLastClose before ∧ '>' ∉ after := by
  obtain ⟨plain, after, hsplit, hplain⟩ := List.eq_append_cons_of_mem h
  have hnone : '>' ∉ plain ++ '<' :: after := by
    intro hmem
    rw [← hsplit] at hmem
    have := List.mem_rtakeWhile_imp hmem
    simp at this
  have hclosed : afterLastClose (cs.rdropWhile (· ≠ '>')) = [] := by
    rw [afterLastClose, List.rtakeWhile_eq_nil_iff]
    intro hne
    exact List.rdropWhile_last_not _ _ hne
  simp only [List.mem_append, List.mem_cons, not_or] at hnone
  refine ⟨cs.rdropWhile (· ≠ '>') ++ plain, after, ?_, ?_, hnone.2.2⟩
  · rw [List.append_assoc, ← hsplit]
    exact List.rdropWhile_append_rtakeWhile.symm
  · rw [afterLastClose_append_of_notMem _ hnone.1, hclosed, List.nil_append]
    exact hplain

/-! ## Cutting a text -/

/-- Where no bracket is open a text may be cut. -/
theorem scan_append_of_settled {a : List Char} (b : List Char) (h : '<' ∉ afterLastClose a) :
    scan (a ++ b) = scan a ++ scan b := by
  induction a using scan_induction with
  | nil => simp
  | plain c rest hc ih =>
    have hrest : '<' ∉ afterLastClose rest := fun hmem => h (mem_afterLastClose_cons hmem)
    rw [List.cons_append, scan_cons_of_ne hc, scan_cons_of_ne hc, ih hrest, List.cons_append]
  | unclosed rest hrest ih =>
    -- the bracket is open itself
    refine absurd ?_ h
    rw [show '<' :: rest = ['<'] ++ rest from rfl, afterLastClose_append_of_notMem _ hrest]
    simp [afterLastClose, List.rtakeWhile]
  | hollow rest ih =>
    have hrest : '<' ∉ afterLastClose ('>' :: rest) := fun hmem => h (mem_afterLastClose_cons hmem)
    rw [List.cons_append, List.cons_append, scan_open_close, scan_open_close, ← List.cons_append,
      ih hrest, List.cons_append]
  | escape name rest hne hname ih =>
    rw [afterLastClose_append_close] at h
    rw [show ('<' :: name ++ '>' :: rest) ++ b = '<' :: name ++ '>' :: (rest ++ b) by simp,
      scan_escape hne hname, scan_escape hne hname, ih h, List.cons_append]

/-- An open bracket stays a literal when no closing bracket follows, or one at once. -/
theorem scan_append_unclosed_iff {before after : List Char} (b : List Char)
    (hbefore : '<' ∉ afterLastClose before) (hafter : '>' ∉ after) :
    scan ((before ++ '<' :: after) ++ b) = scan (before ++ '<' :: after) ++ scan b ↔
      '>' ∉ b ∨ after = [] ∧ b.head? = some '>' := by
  have hleft : scan (before ++ '<' :: after) = scan before ++ literal '<' :: scan after := by
    rw [scan_append_of_settled _ hbefore, scan_open_of_notMem hafter]
  rw [List.append_assoc, List.cons_append, scan_append_of_settled _ hbefore, hleft,
    List.append_assoc, List.append_cancel_left_eq, List.cons_append]
  rcases open_cases (after ++ b) with hnone | ⟨rest, hhollow⟩ | ⟨name, rest, hne, hname, hescape⟩
  · -- no closing bracket at all
    have hb : '>' ∉ b := fun hmem => hnone (List.mem_append_right _ hmem)
    rw [scan_open_of_notMem hnone, scan_of_notMem hnone, scan_of_notMem hafter, scan_of_notMem hb,
      List.map_append]
    simp [hb]
  · -- the closing bracket is the next character, which is the first of the second piece
    have hnil : after = [] := by
      rcases after with _ | ⟨c, after⟩
      · rfl
      · rw [List.cons_append, List.cons.injEq] at hhollow
        exact absurd (by simp [hhollow.1]) hafter
    subst hnil
    rw [List.nil_append] at hhollow
    rw [hhollow, List.nil_append, scan_open_close, scan_nil, List.nil_append]
    simp
  · -- an escape begins here, which the first piece alone does not show
    have hmem : '>' ∈ b := by
      have hboth : '>' ∈ after ++ b := by simp [hescape]
      exact (List.mem_append.1 hboth).resolve_left hafter
    have hhead : ¬ (after = [] ∧ b.head? = some '>') := by
      rintro ⟨rfl, hb⟩
      obtain ⟨c, name, rfl⟩ := List.exists_cons_of_ne_nil hne
      rw [List.nil_append] at hescape
      rw [hescape, List.cons_append, List.head?_cons, Option.some.injEq] at hb
      exact hname (by simp [hb])
    rw [hescape, ← List.cons_append, scan_escape hne hname]
    simp [hmem, hhead]

end Token

open Token

/-- Two pieces that can be read one after the other: in the first no bracket is open, or the second
has no closing bracket, or the only open bracket ends the first piece and the second begins by
closing it with no name in between. -/
def Separable (a b : String) : Prop :=
  '<' ∉ afterLastClose a.toList ∨ '>' ∉ b.toList ∨
    (afterLastClose a.toList).dropWhile (· ≠ '<') = ['<'] ∧ b.toList.head? = some '>'

instance (a b : String) : Decidable (Separable a b) :=
  inferInstanceAs (Decidable (_ ∨ _))

/-- Separable is what the reading of two pieces needs. -/
theorem scan_append_iff_separable (a b : String) :
    scan (a.toList ++ b.toList) = scan a.toList ++ scan b.toList ↔ Separable a b := by
  by_cases hopen : '<' ∈ afterLastClose a.toList
  · obtain ⟨before, after, ha, hbefore, hafter⟩ := exists_unclosed hopen
    have hend : (afterLastClose a.toList).dropWhile (· ≠ '<') = '<' :: after := by
      have hplain : ∀ c ∈ afterLastClose before, decide (c ≠ '<') = true := by
        intro c hc
        simpa using ne_of_mem_of_not_mem hc hbefore
      rw [ha, afterLastClose_append_of_notMem _ (by simpa using hafter),
        List.dropWhile_append_of_pos hplain]
      simp
    rw [Separable, hend, ha, scan_append_unclosed_iff _ hbefore hafter, ← ha]
    simp [hopen]
  · rw [Separable, scan_append_of_settled _ hopen]
    simp [hopen]

/-- Reading two pieces one after the other gives the tokens of the whole text exactly when they are
separable. -/
theorem tokenize_append_eq_iff (a b : String) :
    tokenize (a ++ b) = tokenize a ++ tokenize b ↔ Separable a b := by
  rw [tokenize, tokenize, tokenize, String.toList_append]
  exact scan_append_iff_separable a b

end MonitorKeys
