import MonitorKeys.Proofs.Sender
import MonitorKeys.Proofs.Sink.Recording
import MonitorKeys.Proofs.Token.Cursor
import MonitorKeys.Sink.Stream

/-!
# Reading keeps to the text

A text is read by calls on a cursor, however many of them are made.  No call reaches behind the end
of the text or into the middle of a character, and the calls with a token are no more than the
characters.

* `StandsAfter` is what holds of the cursor between two calls, and `Moves` what one call does.
* `standsAfter_start` and `moves_start` are the cursors and the calls from the start of a text, and
  `getElem?_eq_none_iff_forall_next` says that the end is final.
* `length_tokenize_le` bounds the number of tokens, and with it that of the commands of a run.
* `calls_within_text` puts these together.
-/

namespace MonitorKeys

open Token

namespace Cursor

/-- Where a cursor stands in a text of which these tokens have been returned. -/
structure StandsAfter (input : String) (returned : List Token) (cursor : Cursor) : Prop where
  input_eq : cursor.input = input
  offset_le : cursor.offset ≤ input.utf8ByteSize
  /-- It is at the border of a character. -/
  isValid : String.Pos.Raw.IsValid input ⟨cursor.offset⟩
  /-- Before it are the bytes that these tokens are written with. -/
  offset_eq : cursor.offset = (render returned).utf8ByteSize

/-- What a call does with the cursor. -/
structure Moves (cursor : Cursor) (answer : Option Token) (next : Cursor) : Prop where
  /-- No slice that the call takes is missing. -/
  next?_eq : cursor.next? = some (answer, next)
  offset_literal : ∀ c, answer = some (literal c) → next.offset = cursor.offset + c.utf8Size
  /-- An escape has two brackets and a name. -/
  offset_escape : ∀ name, answer = some (escape name) → cursor.offset + 3 ≤ next.offset
  /-- The cursor goes on by just what the token is written as. -/
  passes : ∀ t, answer = some t → cursor.offset < next.offset ∧
    String.Pos.Raw.extract cursor.input ⟨cursor.offset⟩ ⟨next.offset⟩ = render [t]
  none_iff : answer = none ↔ cursor.offset = cursor.input.utf8ByteSize
  stays : answer = none → next = cursor

section Start

variable (input : String) (k : Nat)

theorem standsAfter_start :
    StandsAfter input (calls k (start input)).reduceOption ((start input).after k) where
  input_eq := by rw [after_start]
  offset_le := by
    rw [utf8ByteSize_eq_offset_add input k]
    exact Nat.le_add_right _ _
  isValid := by
    rw [after_start, String.Pos.Raw.isValid_iff_exists_append]
    exact ⟨_, _, (render_take_append_drop input k).symm, rfl⟩
  offset_eq := by rw [after_start, reduceOption_calls_start]

theorem moves_start :
    Moves ((start input).after k) (tokenize input)[k]? ((start input).after (k + 1)) where
  next?_eq := next?_after_start input k
  offset_literal c hc := by
    rw [offset_after_succ input k hc, utf8ByteSize_render_literal]
  offset_escape name hname := by
    have hnamed := (canonical_scan input.toList).wellNamed _ (List.mem_of_getElem? hname)
    rw [offset_after_succ input k hname]
    exact Nat.add_le_add_left (three_le_utf8ByteSize_render hnamed.1) _
  passes t ht := by
    constructor
    · rw [offset_after_succ input k ht]
      exact Nat.lt_add_of_pos_right (utf8ByteSize_render_pos t)
    · rw [(standsAfter_start input k).input_eq, extract_after_start input k ht]
  none_iff := by
    rw [(standsAfter_start input k).input_eq, getElem?_eq_none_iff_offset]
  stays hnone := by
    rw [after_start, after_start, List.take_add_one, hnone, Option.toList_none, List.append_nil]

/-- A text that has ended stays ended. -/
theorem getElem?_eq_none_iff_forall_next :
    (tokenize input)[k]? = none ↔ ∀ j, ((start input).after (k + j)).next.1 = none := by
  have hanswer (j : Nat) : ((start input).after j).next.1 = (tokenize input)[j]? :=
    congrArg Prod.fst (next_eq_of_next? (next?_after_start input j))
  constructor
  · intro hnone j
    rw [hanswer, List.getElem?_eq_none_iff]
    exact Nat.le_add_right_of_le (List.getElem?_eq_none_iff.1 hnone)
  · intro hall
    rw [← hanswer]
    exact hall 0

/-- One call more than there are tokens shows the end. -/
theorem calls_length_succ :
    calls ((tokenize input).length + 1) (start input) = (tokenize input).map some ++ [none] := by
  rw [calls_start, List.take_of_length_le (Nat.le_succ _), Nat.add_sub_cancel_left,
    List.replicate_one]

end Start

end Cursor

/-! ## Tokens and characters -/

theorem length_scan_le (cs : List Char) : (scan cs).length ≤ cs.length := by
  induction cs using scan_induction with
  | nil =>
    rw [scan_nil]
    exact Nat.le_refl 0
  | plain c rest hc ih =>
    rw [scan_cons_of_ne hc]
    exact Nat.succ_le_succ ih
  | unclosed rest hrest ih =>
    rw [scan_open_of_notMem hrest]
    exact Nat.succ_le_succ ih
  | hollow rest ih =>
    rw [scan_open_close]
    exact Nat.succ_le_succ ih
  | escape name rest hne hname ih =>
    rw [scan_escape hne hname]
    simp only [List.length_cons, List.length_append]
    omega

theorem length_tokenize_le (input : String) : (tokenize input).length ≤ input.length := by
  rw [← String.length_toList]
  exact length_scan_le input.toList

/-- However many calls are made on a text, each one finds its slices, the cursor stands at the
border of a character behind the tokens that were returned, and a call either passes over its token
or finds the text at its end for good.  The end comes after no more tokens than the text has
characters, and no more commands are sent. -/
theorem calls_within_text (input : String) :
    (∀ k,
        let cursor := (Cursor.start input).after k
        let next := (Cursor.start input).after (k + 1)
        Cursor.StandsAfter input (Cursor.calls k (Cursor.start input)).reduceOption cursor ∧
          ∃ answer, Cursor.Moves cursor answer next ∧
            (answer = none ↔ ∀ j, ((Cursor.start input).after (k + j)).next.1 = none)) ∧
      (∃ n ≤ input.length,
        Cursor.calls (n + 1) (Cursor.start input) = (tokenize input).map some ++ [none]) ∧
      ∀ (σ : Type) (sender : Sender σ) (state : σ),
        (sender.calls (.run input) state).length ≤ input.length ∧
          ∀ sent, (sender.run input state).result = .ok sent → sent ≤ input.length := by
  have htokens := length_tokenize_le input
  refine ⟨fun k => ?_, ⟨_, htokens, Cursor.calls_length_succ input⟩, fun σ sender state => ?_⟩
  · exact ⟨Cursor.standsAfter_start input k, _, Cursor.moves_start input k,
      Cursor.getElem?_eq_none_iff_forall_next input k⟩
  · refine ⟨(sender.length_calls_le input state).trans htokens, fun sent hsent => ?_⟩
    rw [sender.sent_of_sendTokens_ok hsent]
    exact List.countP_le_length.trans htokens

/-- The second call on a text of two-byte characters passes over an escape of four bytes, and a run
sends two commands. -/
theorem calls_within_text_two_byte_name :
    let cursor := (Cursor.start "é<ü>").after 1
    let next := (Cursor.start "é<ü>").after 2
    let sender : Sender Stream := ⟨streamSink, 7, .upTo none⟩
    cursor.next? = some (some (.escape "ü"), next) ∧
      cursor.offset + 3 ≤ next.offset ∧
      String.Pos.Raw.extract "é<ü>" ⟨cursor.offset⟩ ⟨next.offset⟩ = render [.escape "ü"] ∧
      (sender.run "é<ü>" { failure := .nothingAccepted }).result = .ok 2 ∧
      2 ≤ "é<ü>".length := by
  intro cursor next sender
  obtain ⟨hcalls, -, hrun⟩ := calls_within_text "é<ü>"
  obtain ⟨hstands, answer, hmoves, -⟩ := hcalls 1
  have hanswer : cursor.next.1 = some (.escape "ü") := by decide +kernel
  rw [Cursor.next_eq_of_next? hmoves.next?_eq] at hanswer
  obtain rfl : answer = some (.escape "ü") := hanswer
  have hsent : (sender.run "é<ü>" { failure := .nothingAccepted }).result = .ok 2 := by
    decide +kernel
  refine ⟨hmoves.next?_eq, hmoves.offset_escape _ rfl, ?_, hsent, (hrun Stream sender _).2 2 hsent⟩
  have hpasses := (hmoves.passes _ rfl).2
  rwa [hstands.input_eq] at hpasses

end MonitorKeys
