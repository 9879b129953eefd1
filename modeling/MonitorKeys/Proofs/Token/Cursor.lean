import Mathlib.Data.List.ReduceOption
import Mathlib.Data.String.Basic
import MonitorKeys.Proofs.Token.Canonical
import MonitorKeys.Token.Cursor

/-!
# The cursor of a text

A cursor counts bytes, while the tokens that it returns are made of characters.  The two never come
apart: a cursor that is reached from the start of a text stands behind the tokens that have been
returned, so every slice that a call takes begins and ends between two characters.

* `dropBytes?_append`, `takeBytes?_append` and `byteOffset?_append` are the slices at such places.
* `Cursor.between` is a cursor between two pieces of a text, and `exists_next?_between` says that a
  call takes the first token of the second piece over to the first one.
* `next?_after_start` and `after_start` are the answer of each call from the start of a text and the
  cursor before it, and `calls_start` are the answers of the first `k` calls.
* `offset_after_succ` and `extract_after_start` say what lies between two cursors, and
  `getElem?_eq_none_iff_offset` where the tokens end.
-/

namespace MonitorKeys

open String (utf8Len)
open Token

/-! ## Slices between characters -/

theorem exists_utf8Len_cons (c : Char) (cs : List Char) :
    ∃ n, utf8Len (c :: cs) = n + 1 ∧ c.utf8Size ≤ n + 1 ∧ n + 1 - c.utf8Size = utf8Len cs := by
  have hpos := c.utf8Size_pos
  rw [String.utf8Len_cons]
  exact ⟨utf8Len cs + c.utf8Size - 1, by omega, by omega, by omega⟩

theorem dropBytes?_append (before rest : List Char) :
    dropBytes? (utf8Len before) (before ++ rest) = some rest := by
  induction before with
  | nil => rw [String.utf8Len_nil, List.nil_append, dropBytes?]
  | cons c before ih =>
    obtain ⟨n, hsize, hle, hrest⟩ := exists_utf8Len_cons c before
    rw [hsize, List.cons_append, dropBytes?, if_pos hle, hrest, ih]

theorem takeBytes?_append (before rest : List Char) :
    takeBytes? (utf8Len before) (before ++ rest) = some before := by
  induction before with
  | nil => rw [String.utf8Len_nil, List.nil_append, takeBytes?]
  | cons c before ih =>
    obtain ⟨n, hsize, hle, hrest⟩ := exists_utf8Len_cons c before
    rw [hsize, List.cons_append, takeBytes?, if_pos hle, hrest, ih, Option.map_some]

/-- A character is found behind the bytes of what stands before it. -/
theorem byteOffset?_append {c : Char} {before : List Char} (h : c ∉ before) (rest : List Char) :
    byteOffset? c (before ++ c :: rest) = some (utf8Len before) := by
  induction before with
  | nil => rw [List.nil_append, byteOffset?, if_pos rfl, String.utf8Len_nil]
  | cons d before ih =>
    rw [List.mem_cons, not_or] at h
    rw [List.cons_append, byteOffset?, if_neg (Ne.symm h.1), ih h.2, Option.map_some,
      String.utf8Len_cons, Nat.add_comm]

theorem byteOffset?_of_notMem {c : Char} {cs : List Char} (h : c ∉ cs) :
    byteOffset? c cs = none := by
  induction cs with
  | nil => rfl
  | cons d cs ih =>
    rw [List.mem_cons, not_or] at h
    rw [byteOffset?, if_neg (Ne.symm h.1), ih h.2, Option.map_none]

/-! ## Token lists as texts -/

theorem render_append (a b : List Token) : render (a ++ b) = render a ++ render b := by
  rw [render, List.flatMap_append, String.ofList_append, render, render]

theorem utf8ByteSize_render_singleton (t : Token) :
    (render [t]).utf8ByteSize = utf8Len t.chars := by
  rw [render, List.flatMap_singleton, String.utf8ByteSize_ofList]

/-- No token is written as nothing. -/
theorem render_eq_empty_iff (tokens : List Token) : render tokens = "" ↔ tokens = [] := by
  constructor
  · intro h
    have hchars : tokens.flatMap chars = [] := by simpa [render] using h
    refine List.eq_nil_iff_forall_not_mem.2 fun t ht => ?_
    have hnil := List.flatMap_eq_nil_iff.1 hchars t ht
    cases t with
    | literal c => cases hnil
    | escape name => cases hnil
  · rintro rfl
    rfl

theorem utf8ByteSize_render_literal (c : Char) :
    (render [literal c]).utf8ByteSize = c.utf8Size := by
  rw [utf8ByteSize_render_singleton, chars_literal, String.utf8Len_cons, String.utf8Len_nil,
    Nat.zero_add]

/-- A name that is not empty has a byte at least. -/
theorem three_le_utf8ByteSize_render {name : String} (h : name ≠ "") :
    3 ≤ (render [escape name]).utf8ByteSize := by
  have hname : name.utf8ByteSize ≠ 0 := mt String.utf8ByteSize_eq_zero_iff.1 h
  have hopen : '<'.utf8Size = 1 := rfl
  have hclose : '>'.utf8Size = 1 := rfl
  rw [utf8ByteSize_render_singleton, chars_escape, String.utf8Len_append, String.utf8Len_cons,
    String.utf8Len_toList, String.utf8Len_cons, String.utf8Len_nil]
  omega

theorem utf8ByteSize_render_pos (t : Token) : 0 < (render [t]).utf8ByteSize := by
  rw [Nat.pos_iff_ne_zero, ne_eq, String.utf8ByteSize_eq_zero_iff, render_eq_empty_iff]
  exact List.cons_ne_nil t []

/-- The first tokens of a text and its other tokens are written as the text. -/
theorem render_take_append_drop (input : String) (k : Nat) :
    render ((tokenize input).take k) ++ render ((tokenize input).drop k) = input := by
  rw [← render_append, List.take_append_drop, render_tokenize]

namespace Cursor

/-! ## One call -/

/-- The cursor between two pieces of a text. -/
def between (before rest : List Char) : Cursor :=
  ⟨String.ofList (before ++ rest), utf8Len before⟩

theorem between_advance (before piece rest : List Char) :
    (between before (piece ++ rest)).advance (utf8Len piece) = between (before ++ piece) rest := by
  rw [between, between, advance, List.append_assoc, String.utf8Len_append]

theorem next?_between_nil (before : List Char) :
    (between before []).next? = some (none, between before []) := by
  simp only [next?, between, String.toList_ofList, dropBytes?_append]
  rfl

theorem next?_between_literal (before : List Char) {c : Char} {rest : List Char}
    (h : c = '<' → byteOffset? '>' rest = none ∨ byteOffset? '>' rest = some 0) :
    (between before (c :: rest)).next? =
      some (some (literal c), between (before ++ [c]) rest) := by
  have hmove : (between before (c :: rest)).advance c.utf8Size = between (before ++ [c]) rest := by
    simpa using between_advance before [c] rest
  rw [← hmove]
  simp only [next?, between, String.toList_ofList, dropBytes?_append]
  by_cases hc : c = '<'
  · rcases h hc with hnone | hzero
    · simp [hc, hnone]
    · simp [hc, hzero]
  · simp [hc]

theorem next?_between_escape (before : List Char) {name rest : List Char} (hne : name ≠ [])
    (hname : '>' ∉ name) :
    (between before ('<' :: name ++ '>' :: rest)).next? =
      some (some (escape (String.ofList name)),
        between (before ++ ('<' :: name ++ ['>'])) rest) := by
  obtain ⟨close, hclose⟩ : ∃ close, utf8Len name = close + 1 :=
    Nat.exists_eq_succ_of_ne_zero (mt String.utf8Len_eq_zero.1 hne)
  have hsize : utf8Len ('<' :: name ++ ['>']) = close + 1 + 2 := by
    have hopen : '<'.utf8Size = 1 := rfl
    have hshut : '>'.utf8Size = 1 := rfl
    simp only [String.utf8Len_append, String.utf8Len_cons, String.utf8Len_nil]
    omega
  have hoffset : byteOffset? '>' (name ++ '>' :: rest) = some (close + 1) := by
    rw [byteOffset?_append hname, hclose]
  have htake : takeBytes? (close + 1) (name ++ '>' :: rest) = some name := by
    rw [← hclose, takeBytes?_append]
  have hmove := between_advance before ('<' :: name ++ ['>']) rest
  rw [hsize, List.append_assoc, List.singleton_append] at hmove
  rw [← hmove]
  simp only [next?, between, String.toList_ofList, dropBytes?_append, List.cons_append,
    Option.bind_eq_bind, Option.bind_some, if_pos, hoffset, htake]

/-- At a token the call passes over its characters. -/
theorem next?_between (before : List Char) {rest rest' : List Char} {t : Token}
    (h : first? rest = some (t, rest')) :
    (between before rest).next? = some (some t, between (before ++ t.chars) rest') := by
  rcases rest with _ | ⟨c, body⟩
  · cases h
  by_cases hc : c = '<'
  · subst hc
    rcases open_cases body with hnone | ⟨after, rfl⟩ | ⟨name, after, hne, hname, rfl⟩
    · rw [first?_open_of_notMem hnone] at h
      cases h
      exact next?_between_literal before fun _ => Or.inl (byteOffset?_of_notMem hnone)
    · rw [first?_open_close] at h
      cases h
      exact next?_between_literal before fun _ => Or.inr rfl
    · rw [← List.cons_append, first?_escape hne hname] at h
      cases h
      rw [← List.cons_append, next?_between_escape before hne hname, chars_escape,
        String.toList_ofList]
  · rw [first?_of_ne hc] at h
    cases h
    exact next?_between_literal before fun hopen => absurd hopen hc

theorem eq_nil_of_first? {cs : List Char} (h : first? cs = none) : cs = [] := by
  unfold first? at h
  split at h
  · cases h
  · rfl
  · cases h

/-- A call returns the first token of what is left, if there is one, and leaves the others. -/
theorem exists_next?_between (before rest : List Char) :
    ∃ rest', (between before rest).next? =
        some ((scan rest).head?, between (before ++ ((scan rest).take 1).flatMap chars) rest') ∧
      scan rest' = (scan rest).tail := by
  cases hfirst : first? rest with
  | none =>
    obtain rfl := eq_nil_of_first? hfirst
    refine ⟨[], ?_, by rw [scan_nil, List.tail_nil]⟩
    rw [next?_between_nil, scan_nil, List.head?_nil, List.take_nil, List.flatMap_nil,
      List.append_nil]
  | some first =>
    obtain ⟨t, rest'⟩ := first
    have hscan := scan_of_first? hfirst
    refine ⟨rest', ?_, by rw [hscan, List.tail_cons]⟩
    rw [next?_between before hfirst, hscan, List.head?_cons, List.take_succ_cons, List.take_zero,
      List.flatMap_singleton]

theorem next_eq_of_next? {cursor next : Cursor} {answer : Option Token}
    (h : cursor.next? = some (answer, next)) : cursor.next = (answer, next) := by
  rw [Cursor.next, h, Option.getD_some]

/-! ## Calls one after the other -/

/-- The cursor after `k` calls. -/
def after (cursor : Cursor) (k : Nat) : Cursor :=
  (fun c => c.next.2)^[k] cursor

theorem after_succ (cursor : Cursor) (k : Nat) : cursor.after (k + 1) = (cursor.after k).next.2 :=
  Function.iterate_succ_apply' _ k cursor

/-- The last of the calls is made by the cursor that the others have left. -/
theorem calls_succ (k : Nat) (cursor : Cursor) :
    calls (k + 1) cursor = calls k cursor ++ [(cursor.after k).next.1] := by
  induction k generalizing cursor with
  | zero => rfl
  | succ k ih =>
    rw [calls, ih, calls, List.cons_append]
    rfl

/-- After `k` calls that many tokens have been passed, or all of them. -/
theorem exists_after_between (before rest : List Char) (k : Nat) :
    ∃ rest', (between before rest).after k =
        between (before ++ ((scan rest).take k).flatMap chars) rest' ∧
      scan rest' = (scan rest).drop k := by
  induction k with
  | zero =>
    refine ⟨rest, ?_, rfl⟩
    rw [List.take_zero, List.flatMap_nil, List.append_nil]
    rfl
  | succ k ih =>
    obtain ⟨left, hafter, hscan⟩ := ih
    obtain ⟨rest', hnext, hrest⟩ :=
      exists_next?_between (before ++ ((scan rest).take k).flatMap chars) left
    refine ⟨rest', ?_, ?_⟩
    · rw [after_succ, hafter, next_eq_of_next? hnext, hscan, List.take_add, List.flatMap_append,
        List.append_assoc]
    · rw [hrest, hscan, List.tail_drop]

section Start

variable (input : String) (k : Nat)

theorem exists_after_start :
    ∃ rest, (start input).after k = between (((tokenize input).take k).flatMap chars) rest ∧
      scan rest = (tokenize input).drop k := by
  have hstart : start input = between [] input.toList := by
    rw [start, between, List.nil_append, String.ofList_toList, String.utf8Len_nil]
  obtain ⟨rest, hafter, hscan⟩ := exists_after_between [] input.toList k
  rw [← hstart, List.nil_append] at hafter
  exact ⟨rest, hafter, hscan⟩

/-- Each call finds its slices, and returns the token that is next in the text. -/
theorem next?_after_start :
    ((start input).after k).next? =
      some ((tokenize input)[k]?, (start input).after (k + 1)) := by
  obtain ⟨rest, hafter, hscan⟩ := exists_after_start input k
  obtain ⟨rest', hnext, -⟩ :=
    exists_next?_between (((tokenize input).take k).flatMap chars) rest
  rw [← hafter, hscan, List.head?_drop] at hnext
  rw [after_succ, next_eq_of_next? hnext, hnext]

/-- The cursor is past the bytes of the tokens that it has returned. -/
theorem after_start :
    (start input).after k = ⟨input, (render ((tokenize input).take k)).utf8ByteSize⟩ := by
  obtain ⟨rest, hafter, hscan⟩ := exists_after_start input k
  have hrest : rest = ((tokenize input).drop k).flatMap chars := by
    rw [← hscan, flatMap_chars_scan]
  rw [hafter, between, hrest, String.ofList_append, render, String.utf8ByteSize_ofList]
  exact congrArg (Cursor.mk · _) (render_take_append_drop input k)

/-- The tokens of a text are returned in their order, and nothing is returned after them. -/
theorem calls_start :
    calls k (start input) =
      ((tokenize input).take k).map some ++
        List.replicate (k - (tokenize input).length) none := by
  induction k with
  | zero => simp [calls]
  | succ k ih =>
    rw [calls_succ, ih, next_eq_of_next? (next?_after_start input k), List.take_add_one]
    rcases Nat.lt_or_ge k (tokenize input).length with hlt | hge
    · have hnone : k - (tokenize input).length = 0 := by omega
      have hnone' : k + 1 - (tokenize input).length = 0 := by omega
      rw [hnone, hnone', List.getElem?_eq_getElem hlt, List.map_append]
      simp only [List.replicate_zero, List.append_nil, Option.toList_some, List.map_cons,
        List.map_nil]
    · rw [Nat.succ_sub hge, List.replicate_succ', List.getElem?_eq_none hge]
      simp

theorem reduceOption_calls_start :
    (calls k (start input)).reduceOption = (tokenize input).take k := by
  rw [calls_start, List.reduceOption_append, List.reduceOption_replicate_none, List.append_nil,
    List.reduceOption, List.filterMap_map]
  exact List.filterMap_some

/-! ## Between two calls -/

theorem render_take_succ {t : Token} (ht : (tokenize input)[k]? = some t) :
    render ((tokenize input).take (k + 1)) = render ((tokenize input).take k) ++ render [t] := by
  rw [List.take_add_one, ht, Option.toList_some, render_append]

/-- A call moves the cursor by the bytes of its token. -/
theorem offset_after_succ {t : Token} (ht : (tokenize input)[k]? = some t) :
    ((start input).after (k + 1)).offset =
      ((start input).after k).offset + (render [t]).utf8ByteSize := by
  rw [after_start, after_start, render_take_succ input k ht, String.utf8ByteSize_append]

/-- What a call passes over is its token. -/
theorem extract_after_start {t : Token} (ht : (tokenize input)[k]? = some t) :
    String.Pos.Raw.extract input ⟨((start input).after k).offset⟩
      ⟨((start input).after (k + 1)).offset⟩ = render [t] := by
  let before := render ((tokenize input).take k)
  let rest := render ((tokenize input).drop (k + 1))
  have hinput : before ++ render [t] ++ rest = input := by
    rw [← render_take_succ input k ht, render_take_append_drop]
  have hextract := String.extract_of_valid before.toList (render [t]).toList rest.toList
  rw [← String.toList_append, ← String.toList_append, String.ofList_toList, hinput,
    String.utf8Len_toList, String.utf8Len_toList, String.ofList_toList] at hextract
  rw [offset_after_succ input k ht, after_start]
  exact hextract

/-- The bytes before the cursor and those of the tokens that are left make up the text. -/
theorem utf8ByteSize_eq_offset_add :
    input.utf8ByteSize =
      ((start input).after k).offset + (render ((tokenize input).drop k)).utf8ByteSize := by
  rw [after_start, ← String.utf8ByteSize_append, render_take_append_drop]

/-- The tokens end where the bytes do. -/
theorem getElem?_eq_none_iff_offset :
    (tokenize input)[k]? = none ↔ ((start input).after k).offset = input.utf8ByteSize := by
  have hsize := utf8ByteSize_eq_offset_add input k
  rw [List.getElem?_eq_none_iff, ← List.drop_eq_nil_iff, ← render_eq_empty_iff,
    ← String.utf8ByteSize_eq_zero_iff]
  omega

end Start

end Cursor

end MonitorKeys
