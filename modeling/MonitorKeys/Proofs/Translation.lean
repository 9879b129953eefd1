import MonitorKeys.Proofs.KeyName.Sent
import MonitorKeys.Proofs.Stream
import MonitorKeys.Proofs.Text.Encode

/-!
# The lines of a translation

A translation is one line for each name that is sent.  A name may be a line end itself, so the
translation of an input with line ends does not fall into its lines at the line ends alone.

* `sentNames` are the names that are sent for some tokens, and `translationOf_eq` writes the
  translation by them.
* `count_newline_translationOf` counts its line ends, and `splitOn_encode_nameChars` cuts it there.
* `eq_of_flatMap_nameChars_eq` says that lines can be told apart as long as a line end occurs in a
  name only when it is the whole name.
-/

namespace MonitorKeys

open Text (Bytes encode bytesOf)

/-! ## The names that are sent -/

/-- The names that are sent for some tokens, one for each command. -/
def sentNames (tokens : List Token) : List String :=
  (tokens.filter fun t => t ≠ .escape "wait").map Token.sentName

@[simp] theorem sentNames_nil : sentNames [] = [] := rfl

theorem sentNames_wait_cons (tokens : List Token) :
    sentNames (.escape "wait" :: tokens) = sentNames tokens := by
  simp [sentNames]

theorem sentNames_cons_of_ne {t : Token} (h : t ≠ .escape "wait") (tokens : List Token) :
    sentNames (t :: tokens) = t.sentName :: sentNames tokens := by
  simp [sentNames, h]

theorem length_sentNames (tokens : List Token) :
    (sentNames tokens).length = commandCount tokens := by
  rw [sentNames, List.length_map, ← List.countP_eq_length_filter, commandCount]

theorem mem_sentNames {tokens : List Token} {name : String} (h : name ∈ sentNames tokens) :
    ∃ t ∈ tokens, t ≠ .escape "wait" ∧ t.sentName = name := by
  obtain ⟨t, ht, rfl⟩ := List.mem_map.1 h
  obtain ⟨hmem, hwait⟩ := List.mem_filter.1 ht
  exact ⟨t, hmem, by simpa using hwait, rfl⟩

/-! ## The lines -/

/-- The characters of the line for a name. -/
def nameChars (name : String) : List Char :=
  ("sendkey " ++ name).toList ++ ['\n']

theorem nameChars_append (name : String) (rest : List Char) :
    nameChars name ++ rest = "sendkey ".toList ++ (name.toList ++ '\n' :: rest) := by
  rw [nameChars, String.toList_append, List.append_assoc, List.append_assoc, List.singleton_append]

theorem line_eq_encode {t : Token} (h : t ≠ .escape "wait") :
    t.line = encode (nameChars t.sentName) := by
  have hend : "\n".toList = ['\n'] := rfl
  rw [line_of_ne h, lineBytes, Token.command, bytesOf, bytesOf, ← Text.encode_append, hend,
    nameChars]

/-- A translation is the lines of the names that are sent. -/
theorem translationOf_eq (tokens : List Token) :
    translationOf tokens = encode ((sentNames tokens).flatMap nameChars) := by
  induction tokens with
  | nil => rfl
  | cons t tokens ih =>
    rw [← List.singleton_append, translationOf_append, translationOf_singleton, ih,
      List.singleton_append]
    by_cases h : t = .escape "wait"
    · rw [h, line_wait, sentNames_wait_cons, List.nil_append]
    · rw [line_eq_encode h, sentNames_cons_of_ne h, List.flatMap_cons, Text.encode_append]

/-! ## Line ends -/

theorem count_newline_nameChars (name : String) :
    (nameChars name).count '\n' = name.toList.count '\n' + 1 := by
  have hverb : "sendkey ".toList.count '\n' = 0 := by decide
  rw [nameChars, String.toList_append, List.count_append, List.count_append, hverb, Nat.zero_add,
    List.count_singleton_self]

/-- The line ends of a translation are those after its commands and those of the input. -/
theorem count_newline_translationOf (tokens : List Token) :
    (translationOf tokens).count Text.newline =
      commandCount tokens + (tokens.flatMap Token.chars).count '\n' := by
  rw [translationOf_eq, Text.count_newline_encode]
  induction tokens with
  | nil => rfl
  | cons t tokens ih =>
    have hrest := commandCount_append [t] tokens
    rw [List.singleton_append] at hrest
    rw [hrest, List.flatMap_cons, List.count_append, ← Token.count_newline_sentName]
    by_cases h : t = .escape "wait"
    · have hnone : (Token.escape "wait").sentName.toList.count '\n' = 0 := by decide
      rw [h, sentNames_wait_cons, ih, hnone, commandCount_wait]
      omega
    · rw [sentNames_cons_of_ne h, List.flatMap_cons, List.count_append, count_newline_nameChars,
        ih, commandCount_of_ne h]
      omega

/-- Names without a line end fall into their lines at the line ends, and nothing is left over. -/
theorem splitOn_encode_nameChars {names : List String} (h : ∀ name ∈ names, '\n' ∉ name.toList) :
    (encode (names.flatMap nameChars)).splitOn Text.newline =
      names.map (fun name => bytesOf ("sendkey " ++ name)) ++ [[]] := by
  induction names with
  | nil => rfl
  | cons name names ih =>
    have hrest := ih fun other hother => h other (List.mem_cons_of_mem name hother)
    have hname : '\n' ∉ ("sendkey " ++ name).toList := by
      rw [String.toList_append, List.mem_append, not_or]
      exact ⟨by decide, h name (by simp)⟩
    have hline : encode (nameChars name) = bytesOf ("sendkey " ++ name) ++ [Text.newline] := by
      rw [nameChars, Text.encode_append, ← bytesOf]
      rfl
    rw [List.flatMap_cons, Text.encode_append, hline, List.append_assoc, List.singleton_append,
      List.splitOn_append_cons_self_of_not_mem, hrest, List.map_cons, List.cons_append]
    rwa [bytesOf, Text.newline_mem_encode_iff]

/-! ## Telling lines apart -/

/-- A name with an end that can be seen: a line end occurs in it only when it is all of it. -/
def Framed (name : String) : Prop :=
  name = "\n" ∨ name ≠ "" ∧ '\n' ∉ name.toList

/-- A name without a line end does not begin as a line end does. -/
theorem toList_append_ne {name : String} (hne : name ≠ "") (hnone : '\n' ∉ name.toList)
    (rest after : List Char) : name.toList ++ rest ≠ '\n' :: after := by
  cases hname : name.toList with
  | nil => exact absurd (String.toList_inj.1 hname) hne
  | cons c cs =>
    intro heq
    rw [hname, List.mem_cons, not_or] at hnone
    exact hnone.1 (List.cons.inj heq).1.symm

/-- The line of a name shows the name, whatever follows. -/
theorem nameChars_append_inj {a b : String} {rest after : List Char} (ha : Framed a)
    (hb : Framed b) (h : nameChars a ++ rest = nameChars b ++ after) : a = b ∧ rest = after := by
  rw [nameChars_append, nameChars_append, List.append_cancel_left_eq] at h
  have hend : "\n".toList = ['\n'] := rfl
  rcases ha with rfl | ⟨hane, hanone⟩
  · rcases hb with rfl | ⟨hbne, hbnone⟩
    · exact ⟨rfl, by simpa using h⟩
    · rw [hend, List.singleton_append] at h
      exact absurd h.symm (toList_append_ne hbne hbnone _ _)
  · rcases hb with rfl | ⟨hbne, hbnone⟩
    · rw [hend, List.singleton_append] at h
      exact absurd h (toList_append_ne hane hanone _ _)
    · have hsplit := congrArg (List.splitOn '\n') h
      rw [List.splitOn_append_cons_self_of_not_mem hanone,
        List.splitOn_append_cons_self_of_not_mem hbnone] at hsplit
      have hab : a = b := String.toList_inj.1 (List.cons.inj hsplit).1
      subst hab
      exact ⟨rfl, by simpa using h⟩

/-- Lines next to one another show their names. -/
theorem eq_of_flatMap_nameChars_eq {a b : List String} (ha : ∀ name ∈ a, Framed name)
    (hb : ∀ name ∈ b, Framed name) (h : a.flatMap nameChars = b.flatMap nameChars) : a = b := by
  have hline : ∀ name, nameChars name ≠ [] := by simp [nameChars]
  induction a generalizing b with
  | nil =>
    cases b with
    | nil => rfl
    | cons name b => simp [hline] at h
  | cons name a ih =>
    cases b with
    | nil => simp [hline] at h
    | cons other b =>
      rw [List.flatMap_cons, List.flatMap_cons] at h
      obtain ⟨rfl, hrest⟩ := nameChars_append_inj (ha name (by simp)) (hb other (by simp)) h
      rw [ih (fun u hu => ha u (List.mem_cons_of_mem name hu))
        (fun u hu => hb u (List.mem_cons_of_mem name hu)) hrest]

/-- Translations show the names that were sent. -/
theorem translationOf_eq_iff {a b : List Token} (ha : ∀ name ∈ sentNames a, Framed name)
    (hb : ∀ name ∈ sentNames b, Framed name) :
    translationOf a = translationOf b ↔ sentNames a = sentNames b := by
  constructor
  · intro h
    rw [translationOf_eq, translationOf_eq] at h
    exact eq_of_flatMap_nameChars_eq ha hb (Text.encode_injective h)
  · intro h
    rw [translationOf_eq, translationOf_eq, h]

end MonitorKeys
