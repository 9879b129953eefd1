import MonitorKeys.Proofs.KeyName
import MonitorKeys.Proofs.Token.Canonical

/-!
# The names that are sent

Most tokens are sent under their own text.  The others are finitely many, and `Token.renamed` and
`Token.renamedLetters` list them with their names: the symbols of the table, the two brackets, and
the upper case letters, which may also stand in brackets.  Facts about all names are checked entry
by entry on these lists, and `sentName_cases` carries them over to every token.

* `ofEscape_sentName` and `withShift_sentName` say that a name that is sent stands for itself when
  it is given as an escape.
* `sentName_eq_wait_iff` says that a command never names the pause.
* `count_newline_sentName`, `sentName_ne_empty` and `notMem_sentName` say how a name can be told
  from what stands around it.
-/

namespace MonitorKeys

namespace KeyName

/-- The upper case ASCII letters. -/
def upperLetters : List Char :=
  "ABCDEFGHIJKLMNOPQRSTUVWXYZ".toList

/-- The key of an upper case letter. -/
def shifted (c : Char) : String :=
  "shift-" ++ String.singleton c.toLower

theorem mem_upperLetters {c : Char} (h : c.isUpper) : c ∈ upperLetters := by
  have hall : ∀ k < 26, Char.ofNat (65 + k) ∈ upperLetters := by decide
  have hrange : 65 ≤ c.toNat ∧ c.toNat ≤ 90 := by
    have hval : 'A'.val ≤ c.val ∧ c.val ≤ 'Z'.val := of_decide_eq_true h
    rw [UInt32.le_iff_toNat_le, UInt32.le_iff_toNat_le] at hval
    exact hval
  have hmem := hall (c.toNat - 65) (by omega)
  rwa [show 65 + (c.toNat - 65) = c.toNat by omega, Char.ofNat_toNat] at hmem

/-- The shift key changes a name only when it is a single upper case letter. -/
theorem withShift_cases (name : String) :
    withShift name = name ∨
      ∃ c ∈ upperLetters, name = String.singleton c ∧ withShift name = shifted c := by
  unfold withShift
  split
  · rename_i c hc
    have hname : name = String.singleton c := by
      rw [← String.toList_inj, hc, String.toList_singleton]
    split
    · rename_i hupper
      exact Or.inr ⟨c, mem_upperLetters hupper, hname, rfl⟩
    · exact Or.inl rfl
  · exact Or.inl rfl

/-- A single character is no alias. -/
theorem ofEscape_singleton (c : Char) : ofEscape (String.singleton c) = String.singleton c := by
  have hlength : ∀ name : String, name.length ≠ 1 → String.singleton c ≠ name := by
    rintro _ hne rfl
    exact hne (by simp)
  rw [ofEscape, if_neg (hlength _ (by decide)), if_neg (hlength _ (by decide))]

end KeyName

namespace Token

open KeyName

/-- The characters of a token without the brackets of an escape. -/
def inner : Token → List Char
  | literal c => [c]
  | escape name => name.toList

/-- The tokens of plain text that are sent under another name, with these names. -/
def renamed : List (Token × String) :=
  symbols.map (fun entry => (literal entry.1, entry.2))
    ++ [(escape "lt", "shift-comma"), (escape "gt", "shift-dot")]
    ++ upperLetters.map fun c => (literal c, shifted c)

/-- The upper case letters in brackets, with the names that they are sent under. -/
def renamedLetters : List (Token × String) :=
  upperLetters.map fun c => (escape (String.singleton c), shifted c)

/-- A token is one of the renamed ones, or it is sent under its own text and no rule applies to
that. -/
theorem sentName_cases (t : Token) :
    (t, t.sentName) ∈ renamed ++ renamedLetters ∨
      t.sentName.toList = t.inner ∧ ofEscape t.sentName = t.sentName ∧
        withShift t.sentName = t.sentName := by
  cases t with
  | literal c =>
    by_cases hupper : c.isUpper
    · have hsent : (literal c).sentName = shifted c := by
        rw [sentName_literal, if_pos hupper, shifted]
      have hentry :=
        List.mem_map_of_mem (f := fun c => (literal c, shifted c)) (mem_upperLetters hupper)
      rw [hsent]
      exact Or.inl (List.mem_append_left _ (List.mem_append_right _ hentry))
    cases hsymbol : symbols.lookup c with
    | some name =>
      have hsent : (literal c).sentName = name := by
        rw [sentName_literal, if_neg hupper, hsymbol, Option.getD_some]
      have hentry := List.mem_map_of_mem (f := fun entry => (literal entry.1, entry.2))
        (mem_symbols_of_ofSymbol? hsymbol)
      rw [hsent]
      exact Or.inl (List.mem_append_left _ (List.mem_append_left _ (List.mem_append_left _ hentry)))
    | none =>
      have hsent : (literal c).sentName = String.singleton c := by
        rw [sentName_literal, if_neg hupper, hsymbol, Option.getD_none]
      rw [hsent]
      exact Or.inr ⟨by simp [inner], ofEscape_singleton c,
        by rw [withShift_singleton, if_neg hupper]⟩
  | escape name =>
    by_cases hlt : name = "lt"
    · subst hlt
      exact Or.inl (by decide)
    by_cases hgt : name = "gt"
    · subst hgt
      exact Or.inl (by decide)
    have halias : ofEscape name = name := by
      rw [ofEscape, if_neg hlt, if_neg hgt]
    have hsent : (escape name).sentName = withShift name := by
      rw [sentName, keyName, halias]
    rcases withShift_cases name with hplain | ⟨c, hc, rfl, hshift⟩
    · rw [hsent, hplain]
      exact Or.inr ⟨rfl, halias, hplain⟩
    · have hentry :=
        List.mem_map_of_mem (f := fun c => (escape (String.singleton c), shifted c)) hc
      rw [hsent, hshift]
      exact Or.inl (List.mem_append_right _ hentry)

/-! ## The renamed tokens -/

/-- No rule changes the name of a renamed token again. -/
theorem fixed_of_mem_renamed :
    ∀ entry ∈ renamed ++ renamedLetters,
      ofEscape entry.2 = entry.2 ∧ withShift entry.2 = entry.2 := by
  decide +kernel

/-- The name of a renamed token is longer than a character, asks for no pause, and holds neither a
closing bracket nor the end of a line. -/
theorem wordLike_of_mem_renamed :
    ∀ entry ∈ renamed ++ renamedLetters,
      1 < entry.2.length ∧ entry.2 ≠ wait ∧ '>' ∉ entry.2.toList ∧ '\n' ∉ entry.2.toList := by
  decide +kernel

/-- No token with a line end in it is renamed. -/
theorem newline_notMem_inner_of_mem_renamed :
    ∀ entry ∈ renamed ++ renamedLetters, '\n' ∉ entry.1.inner := by
  decide +kernel

/-- The tokens of plain text that are renamed get different names. -/
theorem nodup_renamed : (renamed.map Prod.snd).Nodup := by
  decide +kernel

/-! ## What every sent name keeps -/

/-- A name that is sent is no alias. -/
theorem ofEscape_sentName (t : Token) : ofEscape t.sentName = t.sentName := by
  rcases sentName_cases t with hmem | ⟨-, halias, -⟩
  · exact (fixed_of_mem_renamed _ hmem).1
  · exact halias

/-- The shift key is held only once. -/
theorem withShift_sentName (t : Token) : withShift t.sentName = t.sentName := by
  rcases sentName_cases t with hmem | ⟨-, -, hshift⟩
  · exact (fixed_of_mem_renamed _ hmem).2
  · exact hshift

/-- Only a token that presses no key has the name that asks for a pause. -/
theorem sentName_eq_wait_iff (t : Token) : t.sentName = wait ↔ t = escape "wait" := by
  constructor
  · intro hwait
    rcases sentName_cases t with hmem | ⟨hinner, -, -⟩
    · exact absurd hwait (wordLike_of_mem_renamed _ hmem).2.1
    · rw [hwait] at hinner
      cases t with
      | literal c => simp [inner, wait] at hinner
      | escape name => rw [String.toList_inj.1 hinner.symm, wait]
  · rintro rfl
    decide

/-- A name has as many line ends as the token has in the input. -/
theorem count_newline_sentName (t : Token) :
    t.sentName.toList.count '\n' = t.chars.count '\n' := by
  have hchars : t.chars.count '\n' = t.inner.count '\n' := by
    cases t with
    | literal c => rfl
    | escape name => simp [inner]
  rw [hchars]
  rcases sentName_cases t with hmem | ⟨hinner, -, -⟩
  · rw [List.count_eq_zero.2 (wordLike_of_mem_renamed _ hmem).2.2.2,
      List.count_eq_zero.2 (newline_notMem_inner_of_mem_renamed _ hmem)]
  · rw [hinner]

theorem sentName_ne_empty {t : Token} (h : t.WellNamed) : t.sentName ≠ "" := by
  intro hempty
  rcases sentName_cases t with hmem | ⟨hinner, -, -⟩
  · have hlong := (wordLike_of_mem_renamed _ hmem).1
    simp [hempty] at hlong
  · rw [hempty] at hinner
    cases t with
    | literal c => simp [inner] at hinner
    | escape name => exact h.1 (String.toList_inj.1 hinner.symm)

/-- No name holds a closing bracket but the one of the bracket itself. -/
theorem notMem_sentName {t : Token} (h : t.WellNamed) (ht : t ≠ literal '>') :
    '>' ∉ t.sentName.toList := by
  rcases sentName_cases t with hmem | ⟨hinner, -, -⟩
  · exact (wordLike_of_mem_renamed _ hmem).2.2.1
  · rw [hinner]
    cases t with
    | literal c =>
      intro hmem
      rw [inner, List.mem_singleton] at hmem
      exact ht (by rw [hmem])
    | escape name => exact h.2

end Token

end MonitorKeys
