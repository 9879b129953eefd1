import MonitorKeys.KeyName

/-!
# Facts about key names

The table of symbols is checked entry by entry, and what holds of every entry is carried over to
all characters.  No name in the table is `wait`, and none is changed by the shift key.  So the one
token that presses no key is the escape `<wait>`, which `keyName_eq_wait_iff` says, and
`sentName_literal` gives the name that is sent for each character.
-/

namespace MonitorKeys

namespace KeyName

/-! ## The table of symbols -/

/-- A name that was found stands in the table next to its symbol. -/
theorem mem_symbols_of_ofSymbol? {c : Char} {name : String} (h : ofSymbol? c = some name) :
    (c, name) ∈ symbols := by
  rw [ofSymbol?, List.lookup_eq_some_iff] at h
  obtain ⟨before, after, hsymbols, -⟩ := h
  simp [hsymbols]

theorem ne_wait_of_mem_symbols : ∀ entry ∈ symbols, entry.2 ≠ wait := by
  decide

/-- The names in the table are long enough to keep their form. -/
theorem withShift_of_mem_symbols : ∀ entry ∈ symbols, withShift entry.2 = entry.2 := by
  decide

/-- No letter is a symbol of the table. -/
theorem not_isUpper_of_mem_symbols : ∀ entry ∈ symbols, entry.1.isUpper = false := by
  decide

/-! ## Literals and escapes -/

theorem ofLiteral_of_ofSymbol? {c : Char} {name : String} (h : ofSymbol? c = some name) :
    ofLiteral c = name := by
  rw [ofLiteral, h, Option.getD_some]

theorem ofLiteral_of_none {c : Char} (h : ofSymbol? c = none) :
    ofLiteral c = String.singleton c := by
  rw [ofLiteral, h, Option.getD_none]

/-- No literal character asks for a pause. -/
theorem ofLiteral_ne_wait (c : Char) : ofLiteral c ≠ wait := by
  cases h : ofSymbol? c with
  | some name =>
    rw [ofLiteral_of_ofSymbol? h]
    exact ne_wait_of_mem_symbols _ (mem_symbols_of_ofSymbol? h)
  | none =>
    rw [ofLiteral_of_none h]
    intro hwait
    have hlist := congrArg String.toList hwait
    simp [wait] at hlist

/-- The aliases for the brackets ask for no pause, and every other name stands for itself. -/
theorem ofEscape_eq_wait_iff (name : String) : ofEscape name = wait ↔ name = "wait" := by
  by_cases hlt : name = "lt"
  · subst hlt
    decide
  · by_cases hgt : name = "gt"
    · subst hgt
      decide
    · rw [ofEscape, if_neg hlt, if_neg hgt, wait]

/-- A single character is shifted when it is an upper case letter. -/
theorem withShift_singleton (c : Char) :
    withShift (String.singleton c) =
      if c.isUpper then "shift-" ++ String.singleton c.toLower else String.singleton c := by
  simp only [withShift, String.toList_singleton]

end KeyName

namespace Token

/-- The escape `<wait>` is the only token that presses no key. -/
theorem keyName_eq_wait_iff (t : Token) : t.keyName = KeyName.wait ↔ t = escape "wait" := by
  cases t with
  | literal c => simp [keyName, KeyName.ofLiteral_ne_wait]
  | escape name => simp [keyName, KeyName.ofEscape_eq_wait_iff]

/-- The name that is sent for a literal: a symbol of the table has its own name, and any other
character is shifted when it is an upper case letter. -/
theorem sentName_literal (c : Char) :
    (literal c).sentName =
      if c.isUpper then "shift-" ++ String.singleton c.toLower
      else (KeyName.symbols.lookup c).getD (String.singleton c) := by
  show KeyName.withShift (KeyName.ofLiteral c) = _
  cases h : KeyName.ofSymbol? c with
  | some name =>
    have hmem := KeyName.mem_symbols_of_ofSymbol? h
    have hshift : KeyName.withShift name = name := KeyName.withShift_of_mem_symbols _ hmem
    have hupper : c.isUpper = false := KeyName.not_isUpper_of_mem_symbols _ hmem
    have hlookup : KeyName.symbols.lookup c = some name := h
    rw [KeyName.ofLiteral_of_ofSymbol? h, hshift, hupper, hlookup]
    rfl
  | none =>
    have hlookup : KeyName.symbols.lookup c = none := h
    rw [KeyName.ofLiteral_of_none h, KeyName.withShift_singleton, hlookup, Option.getD_none]

end Token

end MonitorKeys
