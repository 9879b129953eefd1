import MonitorKeys.Proofs.Token.Scan

/-!
# The one reading of a text

Many token lists are written as the same text: `<a>` is one escape, and it is also three literals.
`Canonical` says which of them the scanner gives.  The names of its escapes are possible names, and
a literal opening bracket stands only where no escape could have begun.

* `flatMap_chars_scan` says that reading and then writing keeps every character in its place.
* `canonical_scan` says that a text is read as a canonical list, and `scan_flatMap_chars` that a
  canonical list is read back.
* `tokenize_eq_iff` puts these together: the tokens of a text are its one canonical reading.
-/

namespace MonitorKeys

namespace Token

/-! ## Canonical lists -/

/-- An escape has a name, and no closing bracket is part of it. -/
def WellNamed : Token → Prop
  | literal _ => True
  | escape name => name ≠ "" ∧ '>' ∉ name.toList

/-- A token that is written with a closing bracket. -/
def Closes (t : Token) : Prop :=
  t = literal '>' ∨ ∃ name, t = escape name

/-- What stands after an opening bracket that begins no escape: a closing bracket follows at once,
or none follows at all. -/
def OpensNothing (after : List Token) : Prop :=
  after.head? = some (literal '>') ∨ ∀ t ∈ after, ¬ t.Closes

/-- A token list in which every escape could be written and no literal bracket begins one. -/
structure Canonical (tokens : List Token) : Prop where
  wellNamed : ∀ t ∈ tokens, t.WellNamed
  opensNothing : ∀ before after,
    tokens = before ++ literal '<' :: after → OpensNothing after

theorem Canonical.nil : Canonical [] where
  wellNamed := by simp
  opensNothing := by simp

/-- A list is canonical when its first token fits the others and these are canonical. -/
theorem canonical_cons {t : Token} {tokens : List Token} :
    Canonical (t :: tokens) ↔
      t.WellNamed ∧ (t = literal '<' → OpensNothing tokens) ∧ Canonical tokens := by
  constructor
  · intro h
    refine ⟨h.wellNamed t (by simp), ?_, ?_, ?_⟩
    · rintro rfl
      exact h.opensNothing [] tokens rfl
    · intro u hu
      exact h.wellNamed u (List.mem_cons_of_mem t hu)
    · intro before after htokens
      exact h.opensNothing (t :: before) after (by rw [htokens, List.cons_append])
  · rintro ⟨hnamed, hopen, hrest⟩
    constructor
    · intro u hu
      rcases List.mem_cons.1 hu with rfl | hu
      · exact hnamed
      · exact hrest.wellNamed u hu
    · intro before after htokens
      rcases before with _ | ⟨u, before⟩
      · simp only [List.nil_append, List.cons.injEq] at htokens
        rw [← htokens.2]
        exact hopen htokens.1
      · simp only [List.cons_append, List.cons.injEq] at htokens
        exact hrest.opensNothing before after htokens.2

/-! ## The characters of tokens -/

theorem mem_chars_iff (t : Token) : '>' ∈ t.chars ↔ t.Closes := by
  cases t with
  | literal c => simp [Closes, eq_comm]
  | escape name => simp [Closes]

/-- A text has a closing bracket exactly when one of its tokens is written with one. -/
theorem mem_flatMap_chars_iff (tokens : List Token) :
    '>' ∈ tokens.flatMap chars ↔ ∃ t ∈ tokens, t.Closes := by
  simp only [List.mem_flatMap, mem_chars_iff]

/-- The characters of what was read are the text again. -/
theorem flatMap_chars_scan (cs : List Char) : (scan cs).flatMap chars = cs := by
  induction cs using scan_induction with
  | nil => simp
  | plain c rest hc ih => rw [scan_cons_of_ne hc, List.flatMap_cons, ih]; rfl
  | unclosed rest hrest ih => rw [scan_open_of_notMem hrest, List.flatMap_cons, ih]; rfl
  | hollow rest ih => rw [scan_open_close, List.flatMap_cons, ih]; rfl
  | escape name rest hne hname ih =>
    rw [scan_escape hne hname, List.flatMap_cons, ih]
    simp

/-- Where no closing bracket is written, no token is written with one. -/
theorem not_closes_of_mem_scan {cs : List Char} {t : Token} (h : '>' ∉ cs) (ht : t ∈ scan cs) :
    ¬ t.Closes := by
  intro hcloses
  apply h
  rw [← flatMap_chars_scan cs, mem_flatMap_chars_iff]
  exact ⟨t, ht, hcloses⟩

/-! ## Reading and writing -/

/-- A text is read as a canonical list. -/
theorem canonical_scan (cs : List Char) : Canonical (scan cs) := by
  induction cs using scan_induction with
  | nil =>
    rw [scan_nil]
    exact Canonical.nil
  | plain c rest hc ih =>
    rw [scan_cons_of_ne hc, canonical_cons]
    exact ⟨trivial, by simp [hc], ih⟩
  | unclosed rest hrest ih =>
    rw [scan_open_of_notMem hrest, canonical_cons]
    exact ⟨trivial, fun _ => Or.inr fun t ht => not_closes_of_mem_scan hrest ht, ih⟩
  | hollow rest ih =>
    rw [scan_open_close, canonical_cons]
    refine ⟨trivial, fun _ => Or.inl ?_, ih⟩
    rw [scan_cons_of_ne (by decide), List.head?_cons]
  | escape name rest hne hname ih =>
    rw [scan_escape hne hname, canonical_cons]
    refine ⟨⟨?_, ?_⟩, by simp, ih⟩
    · simpa using hne
    · simpa using hname

/-- A canonical list is what its text is read as. -/
theorem scan_flatMap_chars {tokens : List Token} (h : Canonical tokens) :
    scan (tokens.flatMap chars) = tokens := by
  induction tokens with
  | nil => simp
  | cons t tokens ih =>
    obtain ⟨hnamed, hopen, hrest⟩ := canonical_cons.1 h
    have hread := ih hrest
    cases t with
    | escape name =>
      have hne : name.toList ≠ [] := by simpa using hnamed.1
      rw [List.flatMap_cons, chars_escape, List.append_assoc, List.singleton_append,
        scan_escape hne hnamed.2, hread, String.ofList_toList]
    | literal c =>
      rw [List.flatMap_cons, chars_literal, List.singleton_append]
      by_cases hc : c = '<'
      · subst hc
        rcases hopen rfl with hhead | hnone
        · -- the next character is the closing bracket itself, so no name stands between the two
          obtain ⟨after, rfl⟩ := List.head?_eq_some_iff.1 hhead
          simp only [List.flatMap_cons, chars_literal, List.singleton_append] at hread ⊢
          rw [scan_open_close, hread]
        · have hclose : '>' ∉ tokens.flatMap chars := by
            rw [mem_flatMap_chars_iff]
            rintro ⟨u, hu, hcloses⟩
            exact hnone u hu hcloses
          rw [scan_open_of_notMem hclose, hread]
      · rw [scan_cons_of_ne hc, hread]

end Token

open Token

/-- Reading and then writing gives the text back. -/
theorem render_tokenize (input : String) : render (tokenize input) = input := by
  rw [render, tokenize, flatMap_chars_scan, String.ofList_toList]

/-- A canonical list is read back after it was written. -/
theorem tokenize_render {tokens : List Token} (h : Canonical tokens) :
    tokenize (render tokens) = tokens := by
  rw [tokenize, render, String.toList_ofList, scan_flatMap_chars h]

/-- The tokens of a text are the one canonical list that is written as it. -/
theorem tokenize_eq_iff (input : String) (tokens : List Token) :
    tokenize input = tokens ↔ render tokens = input ∧ Canonical tokens := by
  constructor
  · rintro rfl
    exact ⟨render_tokenize input, canonical_scan input.toList⟩
  · rintro ⟨rfl, hcanonical⟩
    exact tokenize_render hcanonical

end MonitorKeys
