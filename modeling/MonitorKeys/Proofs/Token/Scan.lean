import Mathlib.Data.List.TakeWhile
import MonitorKeys.Token

/-!
# What the scanner does with the front of a text

`Token.scan` is defined through `first?` and `escape?`, which look for the next closing bracket by
`dropWhile`.  This file restates it as one equation for each way a text can begin, so that no later
proof opens these two functions again.

* `scan_cons_of_ne`, `scan_open_of_notMem`, `scan_open_close` and `scan_escape` are the equations.
* `open_cases` says that a text after an opening bracket is of one of three forms.
* `scan_induction` is the induction that follows the equations.  Its escape case goes on behind the
  closing bracket, as the scanner does.
-/

namespace MonitorKeys

namespace Token

/-! ## The first token -/

/-- Only an opening bracket begins an escape. -/
theorem first?_of_ne {c : Char} {rest : List Char} (h : c ≠ '<') :
    first? (c :: rest) = some (literal c, rest) := by
  simp [first?, escape?, h]

/-- A closing bracket never comes, so the opening one stands for itself. -/
theorem first?_open_of_notMem {rest : List Char} (h : '>' ∉ rest) :
    first? ('<' :: rest) = some (literal '<', rest) := by
  have hdrop : rest.dropWhile (· ≠ '>') = [] := by
    rw [List.dropWhile_eq_nil_iff]
    intro c hc
    simpa using ne_of_mem_of_not_mem hc h
  have hnone : escape? ('<' :: rest) = none := by
    rw [escape?, if_pos rfl]
    simp only [hdrop]
  simp only [first?, hnone]

/-- Brackets with nothing between them are no escape. -/
theorem first?_open_close (rest : List Char) :
    first? ('<' :: '>' :: rest) = some (literal '<', '>' :: rest) := by
  simp [first?, escape?]

/-- An escape runs up to the first closing bracket. -/
theorem first?_escape {name rest : List Char} (hne : name ≠ []) (hname : '>' ∉ name) :
    first? ('<' :: name ++ '>' :: rest) = some (escape (String.ofList name), rest) := by
  have hall : ∀ c ∈ name, decide (c ≠ '>') = true := by
    intro c hc
    simpa using ne_of_mem_of_not_mem hc hname
  have hdrop : (name ++ '>' :: rest).dropWhile (· ≠ '>') = '>' :: rest := by
    rw [List.dropWhile_append_of_pos hall]
    simp
  have htake : (name ++ '>' :: rest).takeWhile (· ≠ '>') = name := by
    rw [List.takeWhile_append_of_pos hall]
    simp
  have hescape : escape? ('<' :: name ++ '>' :: rest) = some (name, rest) := by
    rw [List.cons_append, escape?, if_pos rfl]
    simp only [hdrop, htake, if_neg hne]
  simp only [first?, hescape]

/-! ## The equations of the scanner -/

/-- The scanner takes one token off the text and goes on with the rest. -/
theorem scan_of_first? {cs rest : List Char} {t : Token} (h : first? cs = some (t, rest)) :
    scan cs = t :: scan rest := by
  rw [scan]
  split
  · rename_i t' rest' h'
    rw [h] at h'
    simp only [Option.some.injEq, Prod.mk.injEq] at h'
    rw [h'.1, h'.2]
  · rename_i h'
    rw [h] at h'
    simp at h'

@[simp] theorem scan_nil : scan [] = [] := by
  rw [scan]
  split
  · rename_i h
    simp [first?, escape?] at h
  · rfl

theorem scan_cons_of_ne {c : Char} {rest : List Char} (h : c ≠ '<') :
    scan (c :: rest) = literal c :: scan rest :=
  scan_of_first? (first?_of_ne h)

theorem scan_open_of_notMem {rest : List Char} (h : '>' ∉ rest) :
    scan ('<' :: rest) = literal '<' :: scan rest :=
  scan_of_first? (first?_open_of_notMem h)

theorem scan_open_close (rest : List Char) :
    scan ('<' :: '>' :: rest) = literal '<' :: scan ('>' :: rest) :=
  scan_of_first? (first?_open_close rest)

theorem scan_escape {name rest : List Char} (hne : name ≠ []) (hname : '>' ∉ name) :
    scan ('<' :: name ++ '>' :: rest) = escape (String.ofList name) :: scan rest :=
  scan_of_first? (first?_escape hne hname)

/-! ## The induction of the scanner -/

/-- What can follow an opening bracket: no closing bracket at all, a closing bracket at once, or a
name and the closing bracket of an escape. -/
theorem open_cases (rest : List Char) :
    '>' ∉ rest ∨ (∃ after, rest = '>' :: after) ∨
      ∃ name after, name ≠ [] ∧ '>' ∉ name ∧ rest = name ++ '>' :: after := by
  by_cases h : '>' ∈ rest
  · obtain ⟨name, after, rfl, hname⟩ := List.eq_append_cons_of_mem h
    rcases name with _ | ⟨c, name⟩
    · exact Or.inr (Or.inl ⟨after, rfl⟩)
    · exact Or.inr (Or.inr ⟨c :: name, after, List.cons_ne_nil _ _, hname, rfl⟩)
  · exact Or.inl h

/-- Induction along the scanner: each case is a way in which a text can begin, and its hypothesis
is about the text after the first token. -/
@[elab_as_elim]
theorem scan_induction {motive : List Char → Prop} (cs : List Char)
    (nil : motive [])
    (plain : ∀ c rest, c ≠ '<' → motive rest → motive (c :: rest))
    (unclosed : ∀ rest, '>' ∉ rest → motive rest → motive ('<' :: rest))
    (hollow : ∀ rest, motive ('>' :: rest) → motive ('<' :: '>' :: rest))
    (escape : ∀ name rest, name ≠ [] → '>' ∉ name → motive rest →
      motive ('<' :: name ++ '>' :: rest)) :
    motive cs := by
  -- the escape case skips a whole name, so the induction is on the length
  induction hlen : cs.length using Nat.strongRecOn generalizing cs with
  | ind n ih =>
    rcases cs with _ | ⟨c, rest⟩
    · exact nil
    · have hrest : motive rest := ih rest.length (by simp [← hlen]) rest rfl
      by_cases hc : c = '<'
      · subst hc
        rcases open_cases rest with hnone | ⟨after, rfl⟩ | ⟨name, after, hne, hname, rfl⟩
        · exact unclosed rest hnone hrest
        · exact hollow after hrest
        · refine escape name after hne hname (ih after.length ?_ after rfl)
          rw [← hlen]
          simp only [List.length_cons, List.length_append]
          omega
      · exact plain c rest hc hrest

/-! ## Texts without a closing bracket -/

/-- Without a closing bracket every character stands for itself. -/
theorem scan_of_notMem {cs : List Char} (h : '>' ∉ cs) : scan cs = cs.map literal := by
  induction cs with
  | nil => simp
  | cons c rest ih =>
    rw [List.mem_cons, not_or] at h
    have hrest := ih h.2
    by_cases hc : c = '<'
    · subst hc
      rw [scan_open_of_notMem h.2, hrest, List.map_cons]
    · rw [scan_cons_of_ne hc, hrest, List.map_cons]

end Token

end MonitorKeys
