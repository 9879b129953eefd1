import MonitorKeys.Proofs.Stream.Failure
import MonitorKeys.Proofs.Token.Canonical
import MonitorKeys.Proofs.Translation

/-!
# What comes out of a stream

The bytes that a stream without limits receives are the translation of the input.

* `written` are the bytes that events write, and `run_unlimited` says what a run writes where
  nothing fails.
* `run_lines` says how these bytes fall into lines, so that no name in an input can pass for a
  second command.
-/

namespace MonitorKeys

open Text (Bytes bytesOf newline)

/-! ## Bytes that are written -/

/-- The bytes that some events write to the output. -/
def written (events : List Event) : Bytes :=
  events.flatMap Event.written

@[simp] theorem written_nil : written [] = [] := rfl

@[simp] theorem written_append (a b : List Event) : written (a ++ b) = written a ++ written b :=
  List.flatMap_append

/-- No log record goes to the output. -/
theorem written_withoutLog (events : List Event) :
    written (withoutLog events) = written events := by
  induction events with
  | nil => rfl
  | cons e events ih => cases e <;> simpa [withoutLog, written, Event.isLog, Event.written] using ih

theorem written_block (delay : Nat) (t : Token) : written (t.block delay) = t.line := by
  by_cases h : t = .escape "wait"
  · rw [h, block_wait, line_wait]
    rfl
  · simp [block_of_ne h, written, Event.written]

/-- The blocks of tokens write the lines of these tokens. -/
theorem written_flatMap_block (delay : Nat) (tokens : List Token) :
    written (tokens.flatMap (Token.block delay)) = translationOf tokens := by
  induction tokens with
  | nil => rfl
  | cons t tokens ih =>
    rw [List.flatMap_cons, written_append, written_block, ih, translationOf, translationOf,
      List.flatMap_cons]

/-! ## Streams without limits -/

/-- A stream that accepts everything. -/
def Stream.unlimited (failure : OutputFailure) : Stream :=
  { budget := none, flushes := none, failure }

theorem Stream.takes_unlimited (failure : OutputFailure) (tokens : List Token) :
    (Stream.unlimited failure).Takes tokens :=
  ⟨within_none _, within_none _⟩

/-- A stream without limits takes every command of a run and receives the translation. -/
theorem run_unlimited (delay : Nat) (filter : Log.Filter) (failure : OutputFailure)
    (input : String) :
    let outcome := (Sender.mk streamSink delay filter).run input (.unlimited failure)
    outcome.result = .ok (commandCount (tokenize input)) ∧
      written outcome.events = translation input := by
  intro outcome
  have htakes := Stream.takes_unlimited failure (tokenize input)
  have hquiet : outcome.quiet = _ := quiet_sendTokens_of_takes delay filter htakes
  constructor
  · rw [← Outcome.result_quiet, hquiet, Outcome.result_done]
  · rw [← written_withoutLog, ← Outcome.events_quiet, hquiet, Outcome.events_done,
      written_flatMap_block]
    rfl

/-! ## Names in an input without line ends -/

theorem newline_notMem_of_mem_sentNames {input name : String} (h : '\n' ∉ input.toList)
    (hname : name ∈ sentNames (tokenize input)) : '\n' ∉ name.toList := by
  obtain ⟨t, ht, -, rfl⟩ := mem_sentNames hname
  intro hmem
  rw [← List.count_pos_iff, t.count_newline_sentName, List.count_pos_iff] at hmem
  apply h
  rw [← Token.flatMap_chars_scan input.toList]
  exact List.mem_flatMap.2 ⟨t, ht, hmem⟩

theorem ne_empty_of_mem_sentNames {input name : String}
    (hname : name ∈ sentNames (tokenize input)) : name ≠ "" := by
  obtain ⟨t, ht, -, rfl⟩ := mem_sentNames hname
  exact Token.sentName_ne_empty ((Token.canonical_scan input.toList).wellNamed t ht)

theorem ne_wait_of_mem_sentNames {tokens : List Token} {name : String}
    (hname : name ∈ sentNames tokens) : name ≠ "wait" := by
  obtain ⟨t, -, ht, rfl⟩ := mem_sentNames hname
  rwa [ne_eq, show "wait" = KeyName.wait from rfl, t.sentName_eq_wait_iff]

theorem framed_of_mem_sentNames {input name : String} (h : '\n' ∉ input.toList)
    (hname : name ∈ sentNames (tokenize input)) : Framed name :=
  Or.inr ⟨ne_empty_of_mem_sentNames hname, newline_notMem_of_mem_sentNames h hname⟩

/-- The translation of an input without line ends is one line for each name. -/
theorem splitOn_translation {input : String} (h : '\n' ∉ input.toList) :
    (translation input).splitOn newline =
      (sentNames (tokenize input)).map (fun name => bytesOf ("sendkey " ++ name)) ++ [[]] := by
  rw [translation, translationOf_eq]
  exact splitOn_encode_nameChars fun name hname => newline_notMem_of_mem_sentNames h hname

/-- No line of such a translation asks for a pause. -/
theorem wait_notMem_splitOn_translation {input : String} (h : '\n' ∉ input.toList) :
    bytesOf "sendkey wait" ∉ (translation input).splitOn newline := by
  rw [splitOn_translation h, List.mem_append, not_or, List.mem_singleton]
  refine ⟨?_, by decide⟩
  intro hmem
  obtain ⟨name, hname, hline⟩ := List.mem_map.1 hmem
  have hwait : "sendkey " ++ name = "sendkey " ++ "wait" := Text.bytesOf_injective hline
  have hchars := congrArg String.toList hwait
  rw [String.toList_append, String.toList_append, List.append_cancel_left_eq,
    String.toList_inj] at hchars
  exact ne_wait_of_mem_sentNames hname hchars

/-- On a stream without limits a run succeeds and writes one line end for each command and each line
end of the input.  For an input without line ends the output falls into one line for each name that
is sent, none of them empty and none a pause, and outputs are equal when these names are. -/
theorem run_lines (delay : Nat) (filter : Log.Filter) (failure : OutputFailure) :
    let run input := (Sender.mk streamSink delay filter).run input (.unlimited failure)
    let output input := written (run input).events
    let names input := sentNames (tokenize input)
    (∀ input, ∃ n, (run input).result = .ok n ∧
        (output input).count newline = n + input.toList.count '\n') ∧
      (∀ input, '\n' ∉ input.toList →
        (run input).result = .ok (names input).length ∧
          (output input).splitOn newline =
            (names input).map (fun name => bytesOf ("sendkey " ++ name)) ++ [[]] ∧
          (∀ name ∈ names input, name ≠ "") ∧
          bytesOf "sendkey wait" ∉ (output input).splitOn newline) ∧
      ∀ s t, '\n' ∉ s.toList → '\n' ∉ t.toList → (output s = output t ↔ names s = names t) := by
  intro run output names
  have hresult : ∀ input, (run input).result = .ok (commandCount (tokenize input)) := fun input =>
    (run_unlimited delay filter failure input).1
  have houtput : ∀ input, output input = translation input := fun input =>
    (run_unlimited delay filter failure input).2
  refine ⟨?_, ?_, ?_⟩
  · intro input
    refine ⟨_, hresult input, ?_⟩
    rw [houtput, translation, count_newline_translationOf, tokenize, Token.flatMap_chars_scan]
  · intro input h
    rw [houtput, hresult, length_sentNames]
    exact ⟨rfl, splitOn_translation h, fun name hname => ne_empty_of_mem_sentNames hname,
      wait_notMem_splitOn_translation h⟩
  · intro s t hs ht
    rw [houtput, houtput, translation, translation]
    exact translationOf_eq_iff (fun name hname => framed_of_mem_sentNames hs hname)
      fun name hname => framed_of_mem_sentNames ht hname

/-- A name with a blank in it is one line, a wait is none, and an upper case letter may be written
in two ways. -/
theorem run_lines_two_spellings :
    let sender : Sender Stream := ⟨streamSink, 7, .upTo none⟩
    let output input := written (sender.run input (.unlimited .nothingAccepted)).events
    '\n' ∉ "a<x y><wait>B".toList ∧ '\n' ∉ "<a><x y><B>".toList ∧
      (output "a<x y><wait>B").splitOn newline =
        [bytesOf "sendkey a", bytesOf "sendkey x y", bytesOf "sendkey shift-b", []] ∧
      output "a<x y><wait>B" = output "<a><x y><B>" := by
  intro sender output
  have hfirst : '\n' ∉ "a<x y><wait>B".toList := by decide
  have hsecond : '\n' ∉ "<a><x y><B>".toList := by decide
  have hnames : sentNames (tokenize "a<x y><wait>B") = ["a", "x y", "shift-b"] := by decide +kernel
  have hother : sentNames (tokenize "<a><x y><B>") = ["a", "x y", "shift-b"] := by decide +kernel
  obtain ⟨-, hlines, hequal⟩ := run_lines 7 (.upTo none) .nothingAccepted
  have hsplit : (output "a<x y><wait>B").splitOn newline =
      (sentNames (tokenize "a<x y><wait>B")).map (fun name => bytesOf ("sendkey " ++ name)) ++
        [[]] :=
    (hlines _ hfirst).2.1
  rw [hnames] at hsplit
  exact ⟨hfirst, hsecond, hsplit, (hequal _ _ hfirst hsecond).2 (hnames.trans hother.symm)⟩

end MonitorKeys
