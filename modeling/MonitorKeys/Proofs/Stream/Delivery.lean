import MonitorKeys.Proofs.Stream.Output

/-!
# What the delivery of keys leaves behind

A stream gets keys one after the other until one of them fails.  `Delivery` says which events that
can leave behind, log records apart: a wait is one pause, a key is its line, a flush and the delay,
and the last key may end in the middle of its line or before its flush.

* `Delivery.exists_left` compares the bytes that were written with the lines of all keys.
* `Paced` says what stands next to flushes and pauses, and `Delivery.paced` and `Paced.append` that
  it holds of a delivery and of several ones in a row.
* `Delivery.wait_of_pause` finds the wait that a pause of its own belongs to.
-/

namespace MonitorKeys

open Text (Bytes)

/-- How the delivery of keys ends. -/
inductive Ending where
  /-- Every key was delivered. -/
  | complete
  /-- A line was accepted only in part. -/
  | cut
  /-- A line was accepted, but the flush after it failed. -/
  | unflushed
  deriving DecidableEq

/-- The events of delivering keys to a stream, by the names of the keys. -/
inductive Delivery (delay : Nat) : List String → Ending → List Event → Prop where
  | nil : Delivery delay [] .complete []
  | wait {names : List String} {ending : Ending} {events : List Event}
      (rest : Delivery delay names ending events) :
      Delivery delay (KeyName.wait :: names) ending (.pause waitPause :: events)
  | key {name : String} {names : List String} {ending : Ending} {events : List Event}
      (hname : name ≠ KeyName.wait) (rest : Delivery delay names ending events) :
      Delivery delay (name :: names) ending
        (.write (KeyName.line name) :: .flush :: .pause delay :: events)
  | cut {name : String} {part : Bytes} (hname : name ≠ KeyName.wait)
      (hpart : part <+: KeyName.line name) (hshort : part ≠ KeyName.line name)
      (names : List String) :
      Delivery delay (name :: names) .cut (Stream.writeEvents part)
  | unflushed {name : String} (hname : name ≠ KeyName.wait) (names : List String) :
      Delivery delay (name :: names) .unflushed [.write (KeyName.line name)]

theorem written_writeEvents (bytes : Bytes) : written (Stream.writeEvents bytes) = bytes := by
  unfold Stream.writeEvents
  split
  · rename_i hnil
    rw [hnil, written_nil]
  · simp [written, Event.written]

namespace Delivery

variable {delay : Nat} {names more : List String} {ending : Ending} {events later : List Event}

/-- After a complete delivery the next one begins. -/
theorem append (first : Delivery delay names .complete events)
    (second : Delivery delay more ending later) :
    Delivery delay (names ++ more) ending (events ++ later) := by
  generalize hending : Ending.complete = reached at first
  induction first with
  | nil => exact second
  | wait _ ih => exact .wait (ih hending)
  | key hname _ ih => exact .key hname (ih hending)
  | cut => cases hending
  | unflushed => cases hending

/-- After a failure further keys change nothing. -/
theorem append_of_ne (first : Delivery delay names ending events) (h : ending ≠ .complete)
    (more : List String) : Delivery delay (names ++ more) ending events := by
  induction first with
  | nil => exact absurd rfl h
  | wait _ ih => exact .wait (ih h)
  | key hname _ ih => exact .key hname (ih h)
  | cut hname hpart hshort names => exact .cut hname hpart hshort (names ++ more)
  | unflushed hname names => exact .unflushed hname (names ++ more)

/-- What was written is a beginning of the lines of all keys.  Nothing is missing after a complete
delivery, and something is where a line was cut. -/
theorem exists_left (h : Delivery delay names ending events) :
    ∃ left, names.flatMap KeyName.line = written events ++ left ∧
      (ending = .complete → left = []) ∧ (ending = .cut → left ≠ []) := by
  induction h with
  | nil => exact ⟨[], rfl, fun _ => rfl, by simp⟩
  | wait _ ih =>
    obtain ⟨left, hleft, hends⟩ := ih
    refine ⟨left, ?_, hends⟩
    rw [List.flatMap_cons, KeyName.line_wait, hleft]
    rfl
  | @key name names ending events hname _ ih =>
    obtain ⟨left, hleft, hends⟩ := ih
    refine ⟨left, ?_, hends⟩
    have hwritten : written (.write (KeyName.line name) :: .flush :: .pause delay :: events) =
        KeyName.line name ++ written events := by
      simp [written, Event.written]
    rw [List.flatMap_cons, hleft, hwritten, List.append_assoc]
  | @cut name part hname hpart hshort names =>
    obtain ⟨missing, hmissing⟩ := hpart
    refine ⟨missing ++ names.flatMap KeyName.line, ?_, by simp, fun _ hnil => ?_⟩
    · rw [List.flatMap_cons, written_writeEvents, ← List.append_assoc, hmissing]
    · rw [(List.append_eq_nil_iff.1 hnil).1, List.append_nil] at hmissing
      exact hshort hmissing
  | @unflushed name hname names =>
    refine ⟨names.flatMap KeyName.line, ?_, by simp, by simp⟩
    simp [written, Event.written]

/-- A pause that follows no flush is that of a wait.  Each key before it has paused once, so the
number of these pauses is its place among the keys. -/
theorem wait_of_pause (h : Delivery delay names ending events) {before after : List Event}
    {nanoseconds : Nat} (hsplit : events = before ++ .pause nanoseconds :: after)
    (hflush : before.getLast? ≠ some .flush) :
    nanoseconds = waitPause ∧
      names[(before.filterMap Event.pause?).length]? = some KeyName.wait := by
  induction h generalizing before with
  | nil => simp at hsplit
  | wait _ ih =>
    cases before with
    | nil =>
      simp only [List.nil_append, List.cons.injEq, Event.pause.injEq] at hsplit
      exact ⟨hsplit.1.symm, rfl⟩
    | cons e before =>
      simp only [List.cons_append, List.cons.injEq] at hsplit
      obtain ⟨rfl, hrest⟩ := hsplit
      have hlast : before.getLast? ≠ some .flush := by
        cases before with
        | nil => simp
        | cons d before => simpa using hflush
      exact ih hrest hlast
  | key hname _ ih =>
    -- the only pause of the key itself follows its flush, so the pause stands in the rest
    rcases before with _ | ⟨e, _ | ⟨d, _ | ⟨c, before⟩⟩⟩
    · simp at hsplit
    · simp at hsplit
    · simp only [List.cons_append, List.nil_append, List.cons.injEq] at hsplit
      obtain ⟨-, rfl, -⟩ := hsplit
      simp at hflush
    · simp only [List.cons_append, List.cons.injEq] at hsplit
      obtain ⟨rfl, rfl, rfl, hrest⟩ := hsplit
      have hlast : before.getLast? ≠ some .flush := by
        cases before with
        | nil => simp
        | cons b before => simpa using hflush
      exact ih hrest hlast
  | @cut name part _ _ _ _ =>
    have hmem : Event.pause nanoseconds ∈ Stream.writeEvents part := by simp [hsplit]
    unfold Stream.writeEvents at hmem
    split at hmem <;> simp at hmem
  | unflushed =>
    cases before <;> simp at hsplit

end Delivery

/-! ## The pace of a trace -/

/-- Every flush stands between the write of a whole line and the delay, and every pause that follows
no flush is that of a wait. -/
structure Paced (delay : Nat) (trace : List Event) : Prop where
  flush : ∀ before after, trace = before ++ .flush :: after →
    (∃ earlier name, name ≠ "wait" ∧ before = earlier ++ [.write (KeyName.line name)]) ∧
      ∃ later, after = .pause delay :: later
  pause : ∀ before nanoseconds after, trace = before ++ .pause nanoseconds :: after →
    (nanoseconds = delay ∧ before.getLast? = some .flush) ∨
      (nanoseconds = waitPause ∧ before.getLast? ≠ some .flush)

/-- An event of two traces in a row stands in the first or in the second one. -/
theorem append_eq_append_cons {a b before after : List Event} {e : Event}
    (h : a ++ b = before ++ e :: after) :
    (∃ rest, a = before ++ e :: rest ∧ after = rest ++ b) ∨
      ∃ rest, before = a ++ rest ∧ b = rest ++ e :: after := by
  rcases List.append_eq_append_iff.1 h with ⟨rest, hbefore, hb⟩ | ⟨rest, ha, hafter⟩
  · exact Or.inr ⟨rest, hbefore, hb⟩
  · cases rest with
    | nil => exact Or.inr ⟨[], by simpa using ha.symm, by simpa using hafter.symm⟩
    | cons d rest =>
      simp only [List.cons_append, List.cons.injEq] at hafter
      obtain ⟨rfl, hafter⟩ := hafter
      exact Or.inl ⟨rest, ha, hafter⟩

namespace Paced

variable {delay : Nat} {a b : List Event}

/-- A flush is never the last event. -/
theorem getLast?_ne_flush (h : Paced delay a) : a.getLast? ≠ some .flush := by
  intro hlast
  obtain ⟨before, rfl⟩ := List.getLast?_eq_some_iff.1 hlast
  obtain ⟨-, later, hlater⟩ := h.flush before [] rfl
  simp at hlater

theorem append (ha : Paced delay a) (hb : Paced delay b) : Paced delay (a ++ b) where
  flush := by
    intro before after hsplit
    rcases append_eq_append_cons hsplit with ⟨rest, hleft, rfl⟩ | ⟨rest, rfl, hright⟩
    · obtain ⟨hwrite, later, rfl⟩ := ha.flush before rest hleft
      exact ⟨hwrite, later ++ b, rfl⟩
    · obtain ⟨⟨earlier, name, hname, rfl⟩, hpause⟩ := hb.flush rest after hright
      exact ⟨⟨a ++ earlier, name, hname, by rw [List.append_assoc]⟩, hpause⟩
  pause := by
    intro before nanoseconds after hsplit
    rcases append_eq_append_cons hsplit with ⟨rest, hleft, rfl⟩ | ⟨rest, rfl, hright⟩
    · exact ha.pause before nanoseconds rest hleft
    · -- a pause at the very beginning of the second trace stands after the last event of the first
      have hpause := hb.pause rest nanoseconds after hright
      rw [List.getLast?_append]
      cases hlast : rest.getLast? with
      | none =>
        rw [hlast] at hpause
        rcases hpause with ⟨-, hnone⟩ | ⟨hwait, -⟩
        · cases hnone
        · exact Or.inr ⟨hwait, ha.getLast?_ne_flush⟩
      | some e =>
        rw [hlast] at hpause
        exact hpause

theorem nil : Paced delay [] where
  flush := by simp
  pause := by simp

theorem wait : Paced delay [.pause waitPause] where
  flush := by
    rintro (_ | ⟨e, before⟩) after hsplit <;> simp at hsplit
  pause := by
    rintro (_ | ⟨e, before⟩) nanoseconds after hsplit
    · simp only [List.nil_append, List.cons.injEq, Event.pause.injEq] at hsplit
      exact Or.inr ⟨hsplit.1.symm, by simp⟩
    · simp at hsplit

theorem write (bytes : Bytes) : Paced delay [.write bytes] where
  flush := by
    rintro (_ | ⟨e, before⟩) after hsplit <;> simp at hsplit
  pause := by
    rintro (_ | ⟨e, before⟩) nanoseconds after hsplit <;> simp at hsplit

theorem key {name : String} (hname : name ≠ "wait") :
    Paced delay [.write (KeyName.line name), .flush, .pause delay] where
  flush := by
    rintro (_ | ⟨e, _ | ⟨d, _ | ⟨c, before⟩⟩⟩) after hsplit
    · simp at hsplit
    · simp only [List.cons_append, List.nil_append, List.cons.injEq] at hsplit
      obtain ⟨rfl, -, rfl⟩ := hsplit
      exact ⟨⟨[], name, hname, rfl⟩, [], rfl⟩
    · simp at hsplit
    · simp at hsplit
  pause := by
    rintro (_ | ⟨e, _ | ⟨d, _ | ⟨c, before⟩⟩⟩) nanoseconds after hsplit
    · simp at hsplit
    · simp at hsplit
    · simp only [List.cons_append, List.nil_append, List.cons.injEq, Event.pause.injEq] at hsplit
      obtain ⟨-, rfl, rfl, -⟩ := hsplit
      exact Or.inl ⟨rfl, rfl⟩
    · simp at hsplit

theorem writeEvents (bytes : Bytes) : Paced delay (Stream.writeEvents bytes) := by
  unfold Stream.writeEvents
  split
  · exact nil
  · exact write bytes

end Paced

/-- A delivery keeps the pace, however it ends. -/
theorem Delivery.paced {delay : Nat} {names : List String} {ending : Ending} {events : List Event}
    (h : Delivery delay names ending events) : Paced delay events := by
  induction h with
  | nil => exact .nil
  | wait _ ih => exact Paced.wait.append ih
  | key hname _ ih => exact (Paced.key hname).append ih
  | @cut name part hname _ _ _ => exact .writeEvents part
  | @unflushed name hname _ => exact .write (KeyName.line name)

end MonitorKeys
