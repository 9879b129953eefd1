import MonitorKeys.Proofs.Sender
import MonitorKeys.Sink.Stream
import MonitorKeys.Translation

/-!
# What a stream still accepts

A stream may accept only so many bytes and only so many flushes.

* `Within` is a limit that a number keeps, and `within_add` splits it over a sum.
* `write_of_within`, `write_of_not_within`, `flush_of_within` and `flush_of_not_within` are the two
  ways in which each of the steps of a stream goes, and `send_of_within`,
  `send_of_flush_not_within` and `send_of_not_within` the three ways of a whole command.
* `Stream.Takes` says that a stream accepts all lines of some tokens, and `Stream.spent` is what is
  left of it then.  `takes_append` and `spent_append` cut both at any place.
-/

namespace MonitorKeys

open Text (Bytes)

/-! ## Limits -/

/-- A number that keeps a limit, where there is one. -/
def Within (limit : Option Nat) (n : Nat) : Prop :=
  ∀ m, limit = some m → n ≤ m

@[simp] theorem within_none (n : Nat) : Within none n := by
  intro m h
  cases h

@[simp] theorem within_some {m n : Nat} : Within (some m) n ↔ n ≤ m := by
  simp [Within]

@[simp] theorem within_zero (limit : Option Nat) : Within limit 0 := by
  intro m _
  omega

instance (limit : Option Nat) (n : Nat) : Decidable (Within limit n) :=
  match limit with
  | none => isTrue (within_none n)
  | some _ => decidable_of_iff _ within_some.symm

/-- A sum keeps a limit when its second part keeps what the first one leaves. -/
theorem within_add {limit : Option Nat} {a b : Nat} :
    Within limit (a + b) ↔ Within limit a ∧ Within (limit.map (· - a)) b := by
  cases limit with
  | none => simp
  | some m =>
    simp only [Option.map_some, within_some]
    omega

/-- The next number after one that keeps a limit breaks it only at the limit itself. -/
theorem not_within_succ {limit : Option Nat} {n : Nat} (h : Within limit n) :
    ¬ Within limit (n + 1) ↔ limit = some n := by
  cases limit with
  | none => simp
  | some m =>
    rw [within_some] at h
    rw [within_some, Option.some.injEq]
    omega

/-! ## Lines -/

theorem lineBytes_ne_nil (command : String) : lineBytes command ≠ [] := by
  simp [lineBytes, Text.bytesOf, String.utf8EncodeChar]

theorem lineBytes_eq (command : String) : lineBytes command = Text.bytesOf (command ++ "\n") := by
  rw [lineBytes, Text.bytesOf, Text.bytesOf, Text.bytesOf, String.toList_append, Text.encode_append]

@[simp] theorem KeyName.line_wait : KeyName.line KeyName.wait = [] :=
  if_pos rfl

theorem KeyName.line_of_ne {name : String} (h : name ≠ KeyName.wait) :
    KeyName.line name = lineBytes (KeyName.command name) := by
  rw [lineBytes_eq]
  exact if_neg h

/-- The line of a token is that of its name. -/
theorem KeyName.line_keyName (t : Token) : KeyName.line t.keyName = t.line := by
  by_cases h : t = .escape "wait"
  · rw [h]
    rfl
  · have hname : t.keyName ≠ KeyName.wait := by
      rwa [ne_eq, Token.keyName_eq_wait_iff]
    exact (if_neg hname).trans (if_neg h).symm

@[simp] theorem line_wait : (Token.escape "wait").line = [] :=
  if_pos rfl

theorem line_of_ne {t : Token} (h : t ≠ .escape "wait") : t.line = lineBytes t.command := by
  rw [lineBytes_eq]
  exact if_neg h

theorem translationOf_append (a b : List Token) :
    translationOf (a ++ b) = translationOf a ++ translationOf b :=
  List.flatMap_append

theorem translationOf_singleton (t : Token) : translationOf [t] = t.line := by
  simp [translationOf]

/-! ## Writing a line -/

theorem streamSink_send (command : String) (stream : Stream) :
    streamSink.send command stream = stream.send command := rfl

namespace Stream

theorem accepted_of_within {stream : Stream} {bytes : Bytes}
    (h : Within stream.budget bytes.length) : stream.accepted bytes = bytes := by
  unfold accepted
  split
  · rfl
  · rename_i n hn
    rw [hn, within_some] at h
    exact List.take_of_length_le h

theorem write_of_within {stream : Stream} {bytes : Bytes} (h : Within stream.budget bytes.length) :
    stream.write bytes = .done () (stream.charge bytes) (writeEvents bytes) := by
  simp [write, accepted_of_within h, Outcome.done]

theorem accepted_isPrefix (stream : Stream) (bytes : Bytes) : stream.accepted bytes <+: bytes := by
  unfold accepted
  split
  · exact List.prefix_rfl
  · exact List.take_prefix _ _

theorem length_accepted_lt {stream : Stream} {bytes : Bytes}
    (h : ¬ Within stream.budget bytes.length) :
    (stream.accepted bytes).length < bytes.length := by
  unfold accepted
  split
  · rename_i hn
    rw [hn] at h
    exact absurd (within_none _) h
  · rename_i n hn
    rw [hn, within_some] at h
    rw [List.length_take]
    omega

theorem write_of_not_within {stream : Stream} {bytes : Bytes}
    (h : ¬ Within stream.budget bytes.length) :
    stream.write bytes =
      ⟨.error stream.failure, stream.charge bytes, writeEvents (stream.accepted bytes)⟩ := by
  simp [write, length_accepted_lt h]

theorem flush_of_within {stream : Stream} (h : Within stream.flushes 1) :
    stream.flush =
      .done () { stream with flushes := stream.flushes.map (· - 1) } [.flush] := by
  obtain ⟨budget, flushes, failure⟩ := stream
  rcases flushes with _ | _ | m
  · rfl
  · simp at h
  · rfl

theorem flush_of_not_within {stream : Stream} (h : ¬ Within stream.flushes 1) :
    stream.flush = ⟨.error stream.failure, stream, []⟩ := by
  obtain ⟨budget, flushes, failure⟩ := stream
  rcases flushes with _ | _ | m
  · simp at h
  · rfl
  · simp at h

theorem writeEvents_lineBytes (command : String) :
    writeEvents (lineBytes command) = [.write (lineBytes command)] := by
  rw [writeEvents, if_neg (lineBytes_ne_nil command)]

/-- A line that fits is written and flushed. -/
theorem send_of_within {stream : Stream} {command : String}
    (hbudget : Within stream.budget (lineBytes command).length)
    (hflush : Within stream.flushes 1) :
    stream.send command =
      .done () { stream.charge (lineBytes command) with flushes := stream.flushes.map (· - 1) }
        [.write (lineBytes command), .flush] := by
  have hnext : Within (stream.charge (lineBytes command)).flushes 1 := hflush
  rw [send, write_of_within hbudget, Outcome.done_andThen, flush_of_within hnext,
    Outcome.after_done, writeEvents_lineBytes]
  rfl

/-- A line that fits is written even when the flush after it fails. -/
theorem send_of_flush_not_within {stream : Stream} {command : String}
    (hbudget : Within stream.budget (lineBytes command).length)
    (hflush : ¬ Within stream.flushes 1) :
    stream.send command =
      ⟨.error stream.failure, stream.charge (lineBytes command),
        [.write (lineBytes command)]⟩ := by
  have hnext : ¬ Within (stream.charge (lineBytes command)).flushes 1 := hflush
  rw [send, write_of_within hbudget, Outcome.done_andThen, flush_of_not_within hnext,
    writeEvents_lineBytes]
  rfl

/-- Of a line that does not fit the part that does is written. -/
theorem send_of_not_within {stream : Stream} {command : String}
    (hbudget : ¬ Within stream.budget (lineBytes command).length) :
    stream.send command =
      ⟨.error stream.failure, stream.charge (lineBytes command),
        writeEvents (stream.accepted (lineBytes command))⟩ := by
  rw [send, write_of_not_within hbudget, Outcome.error_andThen]

/-! ## What a stream takes -/

/-- The stream accepts the lines of all these tokens and a flush for each. -/
def Takes (stream : Stream) (tokens : List Token) : Prop :=
  Within stream.budget (translationOf tokens).length ∧ Within stream.flushes (commandCount tokens)

/-- The stream after the lines of some tokens. -/
def spent (stream : Stream) (tokens : List Token) : Stream :=
  { stream with
    budget := stream.budget.map (· - (translationOf tokens).length)
    flushes := stream.flushes.map (· - commandCount tokens) }

theorem takes_nil (stream : Stream) : stream.Takes [] := by
  simp [Takes, translationOf]

theorem takes_append {stream : Stream} {a b : List Token} :
    stream.Takes (a ++ b) ↔ stream.Takes a ∧ (stream.spent a).Takes b := by
  rw [Takes, Takes, Takes, translationOf_append, commandCount_append, List.length_append,
    within_add, within_add, spent]
  exact and_and_and_comm

@[simp] theorem spent_nil (stream : Stream) : stream.spent [] = stream := by
  obtain ⟨budget, flushes, failure⟩ := stream
  cases budget <;> cases flushes <;> simp [spent, translationOf]

theorem spent_append (stream : Stream) (a b : List Token) :
    stream.spent (a ++ b) = (stream.spent a).spent b := by
  obtain ⟨budget, flushes, failure⟩ := stream
  cases budget <;> cases flushes <;>
    simp [spent, translationOf_append, commandCount_append, Nat.sub_add_eq]

end Stream

end MonitorKeys
