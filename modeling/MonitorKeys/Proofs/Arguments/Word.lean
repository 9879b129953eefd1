import Mathlib.Logic.Basic
import Mathlib.Data.List.TakeWhile
import MonitorKeys.Arguments.Word
import MonitorKeys.Proofs.Arguments.Conventions

/-!
# How words are spelled

`Word.ofArgument` tells what an argument says, and this file goes the other way: it gives the
spellings of each word that an accepted command line can have before its separator.

* `ofArgument_eq_plain_iff` says that the plain arguments are those that stand alone.
* `ofArgument_eq_separator_iff`, `ofArgument_eq_bare_iff` and `ofArgument_eq_valued_iff` are the
  spellings of the separator, of an option without a value and of an option with one.
-/

namespace MonitorKeys.Arguments

open Text (Bytes bytesOf)

namespace Word

/-! ## Long names -/

theorem head_of_dropWhile_ne_equals {bytes rest : Bytes} {b : UInt8}
    (h : bytes.dropWhile (· ≠ equals) = b :: rest) : b = equals := by
  have := List.head?_dropWhile_not (fun d : UInt8 => decide (d ≠ equals)) bytes
  rw [h] at this
  simpa using this

/-- A name with an equals sign and a value behind it, where there is one. -/
def joined (name : Bytes) : Option Bytes → Bytes
  | none => name
  | some value => name ++ equals :: value

/-- What is before the first equals sign and what is after it make up the whole. -/
theorem joined_beforeEquals (bytes : Bytes) :
    joined (beforeEquals bytes) (afterEquals? bytes) = bytes := by
  have hsplit := List.takeWhile_append_dropWhile (p := fun b : UInt8 => decide (b ≠ equals))
    (l := bytes)
  cases hrest : bytes.dropWhile (· ≠ equals) with
  | nil =>
    rw [hrest, List.append_nil] at hsplit
    rw [afterEquals?, hrest]
    exact hsplit
  | cons b rest =>
    rw [hrest, head_of_dropWhile_ne_equals hrest] at hsplit
    rw [afterEquals?, hrest]
    exact hsplit

section Name

variable {name : Bytes} (hname : equals ∉ name)

include hname

theorem ne_equals_of_mem : ∀ b ∈ name, decide (b ≠ equals) = true := by
  intro b hb
  simpa using ne_of_mem_of_not_mem hb hname

theorem beforeEquals_joined (value : Option Bytes) : beforeEquals (joined name value) = name := by
  cases value with
  | none => rw [joined, beforeEquals, List.takeWhile_eq_self_iff.2 (ne_equals_of_mem hname)]
  | some value =>
    rw [joined, beforeEquals, List.takeWhile_append_of_pos (ne_equals_of_mem hname)]
    simp

theorem afterEquals?_joined (value : Option Bytes) : afterEquals? (joined name value) = value := by
  cases value with
  | none =>
    rw [joined, afterEquals?, List.dropWhile_eq_nil_iff.2 (ne_equals_of_mem hname)]
    rfl
  | some value =>
    rw [joined, afterEquals?, List.dropWhile_append_of_pos (ne_equals_of_mem hname)]
    simp

/-- The part before the first equals sign is a name, and the part after it a value. -/
theorem beforeEquals_eq_iff {bytes : Bytes} {value : Option Bytes} :
    beforeEquals bytes = name ∧ afterEquals? bytes = value ↔ bytes = joined name value := by
  constructor
  · rintro ⟨rfl, rfl⟩
    exact (joined_beforeEquals bytes).symm
  · rintro rfl
    exact ⟨beforeEquals_joined hname value, afterEquals?_joined hname value⟩

end Name

/-- An option in its long spelling, less the two hyphens. -/
theorem ofLong_eq_option_iff {bytes : Bytes} {choice : Choice} {value : Option Bytes} :
    ofLong bytes = .option choice value ↔ bytes = joined (bytesOf choice.name) value := by
  have hname : equals ∉ bytesOf choice.name := by cases choice <;> decide
  rw [← beforeEquals_eq_iff hname]
  constructor
  · intro h
    simp only [ofLong] at h
    split_ifs at h with hcommand hdelay <;> cases h
    · exact ⟨hcommand, rfl⟩
    · exact ⟨hdelay, rfl⟩
  · rintro ⟨hbefore, rfl⟩
    cases choice with
    | command => exact if_pos hbefore
    | delay =>
      have hne : beforeEquals bytes ≠ bytesOf "command" := by
        rw [hbefore]
        decide
      exact (if_neg hne).trans (if_pos hbefore)

theorem ofLong_ne_plain (bytes value : Bytes) : ofLong bytes ≠ .plain value := by
  simp only [ofLong]
  split_ifs <;> simp

theorem ofLong_ne_separator (bytes : Bytes) : ofLong bytes ≠ .separator := by
  simp only [ofLong]
  split_ifs <;> simp

/-! ## Short names -/

/-- The letter of an option. -/
def letter : Choice → UInt8
  | .command => 0x63
  | .delay => 0x64

/-- An option in its short spelling, less the hyphen. -/
theorem ofShort_eq_option_iff {bytes : Bytes} {choice : Choice} {value : Option Bytes} :
    ofShort bytes = .option choice value ↔
      ∃ rest, bytes = letter choice :: rest ∧ attachedValue? rest = value := by
  constructor
  · intro h
    simp only [ofShort] at h
    split at h
    · rename_i c rest hfirst
      have hbytes := Text.eq_append_of_firstChar? hfirst
      split_ifs at h with hc hd <;> cases h
      · rw [hc] at hbytes
        exact ⟨rest, hbytes, rfl⟩
      · rw [hd] at hbytes
        exact ⟨rest, hbytes, rfl⟩
    · cases h
  · rintro ⟨rest, rfl, rfl⟩
    cases choice with
    | command =>
      have hfirst : Text.firstChar? (letter .command :: rest) = some ('c', rest) :=
        Text.firstChar?_encodeChar 'c' rest
      simp only [ofShort, hfirst]
      rfl
    | delay =>
      have hfirst : Text.firstChar? (letter .delay :: rest) = some ('d', rest) :=
        Text.firstChar?_encodeChar 'd' rest
      simp only [ofShort, hfirst]
      rfl

theorem ofShort_ne_plain (bytes value : Bytes) : ofShort bytes ≠ .plain value := by
  simp only [ofShort]
  split
  · split_ifs <;> simp
  · simp

theorem ofShort_ne_separator (bytes : Bytes) : ofShort bytes ≠ .separator := by
  simp only [ofShort]
  split
  · split_ifs <;> simp
  · simp

/-! ## Whole arguments -/

theorem ofArgument_long {bytes : Bytes} (h : bytes ≠ []) :
    ofArgument (hyphen :: hyphen :: bytes) = ofLong bytes := by
  simp [ofArgument, h]

theorem ofArgument_short {b : UInt8} (h : b ≠ hyphen) (bytes : Bytes) :
    ofArgument (hyphen :: b :: bytes) = ofShort (b :: bytes) := by
  simp [ofArgument, h]

theorem ofArgument_of_standalone {argument : Bytes} (h : Standalone argument) :
    ofArgument argument = .plain argument := by
  rcases argument with _ | ⟨a, _ | ⟨b, rest⟩⟩
  · rfl
  · rfl
  · have ha : a ≠ hyphen := by simpa [Standalone] using h
    simp [ofArgument, ha]

/-- An argument stands alone, or is the separator, or has something behind one or two hyphens. -/
theorem argument_cases (argument : Bytes) :
    Standalone argument ∨ argument = doubleHyphen ∨
      (∃ bytes, bytes ≠ [] ∧ argument = hyphen :: hyphen :: bytes) ∨
      ∃ b bytes, b ≠ hyphen ∧ argument = hyphen :: b :: bytes := by
  rcases argument with _ | ⟨a, _ | ⟨b, rest⟩⟩
  · exact Or.inl (Or.inl (by simp))
  · by_cases ha : a = hyphen
    · exact Or.inl (Or.inr (by rw [ha]))
    · exact Or.inl (Or.inl (by simpa using ha))
  · by_cases ha : a = hyphen
    · subst ha
      by_cases hb : b = hyphen
      · subst hb
        by_cases hrest : rest = []
        · exact Or.inr (Or.inl (by rw [hrest]; rfl))
        · exact Or.inr (Or.inr (Or.inl ⟨rest, hrest, rfl⟩))
      · exact Or.inr (Or.inr (Or.inr ⟨b, rest, hb, rfl⟩))
    · exact Or.inl (Or.inl (by simpa using ha))

/-- The plain arguments are those that stand alone. -/
theorem ofArgument_eq_plain_iff {argument value : Bytes} :
    ofArgument argument = .plain value ↔ argument = value ∧ Standalone value := by
  constructor
  · intro h
    rcases argument_cases argument with halone | rfl | ⟨bytes, hne, rfl⟩ | ⟨b, bytes, hb, rfl⟩
    · rw [ofArgument_of_standalone halone, plain.injEq] at h
      exact ⟨h, h ▸ halone⟩
    · cases h
    · rw [ofArgument_long hne] at h
      exact absurd h (ofLong_ne_plain bytes value)
    · rw [ofArgument_short hb] at h
      exact absurd h (ofShort_ne_plain (b :: bytes) value)
  · rintro ⟨rfl, halone⟩
    exact ofArgument_of_standalone halone

theorem ofArgument_eq_separator_iff {argument : Bytes} :
    ofArgument argument = .separator ↔ argument = doubleHyphen := by
  constructor
  · intro h
    rcases argument_cases argument with halone | rfl | ⟨bytes, hne, rfl⟩ | ⟨b, bytes, hb, rfl⟩
    · rw [ofArgument_of_standalone halone] at h
      cases h
    · rfl
    · rw [ofArgument_long hne] at h
      exact absurd h (ofLong_ne_separator bytes)
    · rw [ofArgument_short hb] at h
      exact absurd h (ofShort_ne_separator (b :: bytes))
  · rintro rfl
    rfl

theorem joined_long (choice : Choice) (value : Option Bytes) :
    joined choice.long value = hyphen :: hyphen :: joined (bytesOf choice.name) value := by
  have hlong : choice.long = hyphen :: hyphen :: bytesOf choice.name := by
    cases choice <;> decide
  rw [hlong]
  cases value <;> rfl

theorem short_append (choice : Choice) (rest : Bytes) :
    choice.short ++ rest = hyphen :: letter choice :: rest := by
  cases choice <;> rfl

/-- An option is spelled by its long name, with a value behind an equals sign, or by its short name,
with a value right behind it. -/
theorem ofArgument_eq_option_iff {argument : Bytes} {choice : Choice} {value : Option Bytes} :
    ofArgument argument = .option choice value ↔
      argument = joined choice.long value ∨
        ∃ rest, argument = choice.short ++ rest ∧ attachedValue? rest = value := by
  simp only [joined_long, short_append]
  constructor
  · intro h
    rcases argument_cases argument with halone | rfl | ⟨bytes, hne, rfl⟩ | ⟨b, bytes, hb, rfl⟩
    · rw [ofArgument_of_standalone halone] at h
      cases h
    · cases h
    · rw [ofArgument_long hne, ofLong_eq_option_iff] at h
      exact Or.inl (by rw [h])
    · rw [ofArgument_short hb, ofShort_eq_option_iff] at h
      obtain ⟨rest, hrest, hvalue⟩ := h
      exact Or.inr ⟨rest, by rw [hrest], hvalue⟩
  · rintro (rfl | ⟨rest, rfl, rfl⟩)
    · have hne : joined (bytesOf choice.name) value ≠ [] := by
        cases choice <;> cases value <;> simp [joined, Choice.name, bytesOf, String.utf8EncodeChar]
      rw [ofArgument_long hne, ofLong_eq_option_iff]
    · have hb : letter choice ≠ hyphen := by cases choice <;> decide
      rw [ofArgument_short hb, ofShort_eq_option_iff]
      exact ⟨rest, rfl, rfl⟩

theorem begins_of_ofArgument {argument : Bytes} {choice : Choice} {value : Option Bytes}
    (h : ofArgument argument = .option choice value) : choice.Begins argument := by
  rcases ofArgument_eq_option_iff.1 h with rfl | ⟨rest, rfl, -⟩
  · cases value with
    | none => exact Or.inr (Or.inl rfl)
    | some value => exact Or.inr (Or.inr ⟨value, List.append_assoc _ _ _⟩)
  · exact Or.inl ⟨rest, rfl⟩

/-- An option without a value is its bare name. -/
theorem ofArgument_eq_bare_iff {argument : Bytes} {choice : Choice} :
    ofArgument argument = .option choice none ↔
      argument = choice.short ∨ argument = choice.long := by
  rw [ofArgument_eq_option_iff, or_comm, joined]
  refine or_congr_left ⟨?_, ?_⟩
  · rintro ⟨rest, rfl, hnone⟩
    cases rest with
    | nil => exact List.append_nil _
    | cons b rest => cases hnone
  · rintro rfl
    exact ⟨[], (List.append_nil _).symm, rfl⟩

/-- An option with a value has it right behind its short name, or behind its long name and an equals
sign. -/
theorem ofArgument_eq_valued_iff {argument value : Bytes} {choice : Choice} :
    ofArgument argument = .option choice (some value) ↔
      (∃ rest, rest ≠ [] ∧ argument = choice.short ++ rest ∧ value = unequalled rest) ∨
        argument = choice.long ++ equals :: value := by
  rw [ofArgument_eq_option_iff, or_comm, joined]
  refine or_congr_left ⟨?_, ?_⟩
  · rintro ⟨rest, rfl, hvalue⟩
    cases rest with
    | nil => cases hvalue
    | cons b rest => exact ⟨b :: rest, List.cons_ne_nil _ _, rfl, (Option.some.inj hvalue).symm⟩
  · rintro ⟨rest, hne, rfl, rfl⟩
    cases rest with
    | nil => exact absurd rfl hne
    | cons b rest => exact ⟨b :: rest, rfl, rfl⟩

end Word

end MonitorKeys.Arguments
