import MonitorKeys.Proofs.Sink.Recording
import MonitorKeys.Proofs.Stream.Delivery

/-!
# What a sender on a stream does over a whole history

A sender answers requests one after the other while its stream runs out of bytes and of flushes, and
gets new bytes.  Every answer is a delivery of the keys of its own request (`delivery_answer`),
whatever the stream was left with, so a failed request leaves nothing to the next one but what its
stream still accepts.  `history_streamSink` says so of the bytes, the results and the pauses.
-/

namespace MonitorKeys

open Text (Bytes)

/-! ## The steps of a history -/

namespace Sender

variable {σ : Type}

/-- A request of a history, the state in which it came, and what it left behind. -/
structure Step (σ : Type) where
  request : Request
  state : σ
  outcome : Outcome σ Reply

/-- The steps of answering requests one after the other. -/
def steps (sender : Sender σ) : List Request → σ → List (Step σ)
  | [], _ => []
  | request :: requests, state =>
    let outcome := sender.answer request state
    ⟨request, state, outcome⟩ :: sender.steps requests outcome.state

theorem map_outcome_steps (sender : Sender σ) (requests : List Request) (state : σ) :
    (sender.steps requests state).map Step.outcome = sender.history requests state := by
  induction requests generalizing state with
  | nil => rfl
  | cons request requests ih => rw [steps, List.map_cons, ih, history]

theorem map_request_steps (sender : Sender σ) (requests : List Request) (state : σ) :
    (sender.steps requests state).map Step.request = requests := by
  induction requests generalizing state with
  | nil => rfl
  | cons request requests ih => rw [steps, List.map_cons, ih]

theorem outcome_of_mem_steps {sender : Sender σ} {requests : List Request} {state : σ}
    {step : Step σ} (h : step ∈ sender.steps requests state) :
    step.outcome = sender.answer step.request step.state := by
  induction requests generalizing state with
  | nil => simp [steps] at h
  | cons request requests ih =>
    rw [steps, List.mem_cons] at h
    rcases h with rfl | h
    · rfl
    · exact ih h

/-- The names of the keys that a request asks for; `wait` may be among them. -/
def Request.names : Request → List String
  | .run input => (tokenize input).map Token.keyName
  | .sendkey name => [name]
  | .limit _ => []

/-- What a request sends is the lines of its keys. -/
theorem Request.translation_eq (request : Request) :
    request.translation = request.names.flatMap KeyName.line := by
  cases request with
  | run input =>
    rw [names, List.flatMap_map]
    exact congrArg ((tokenize input).flatMap ·) (funext fun t => (KeyName.line_keyName t).symm)
  | sendkey name => simp [Request.translation, names]
  | limit budget => rfl

end Sender

/-! ## One command -/

namespace Stream

/-- The line of a command is accepted whole, and the flush after it fails. -/
def FlushFails (stream : Stream) (command : String) : Prop :=
  (stream.write (lineBytes command)).result = .ok () ∧
    (stream.write (lineBytes command)).state.flush.result ≠ .ok ()

theorem flushFails_iff {stream : Stream} {command : String} :
    stream.FlushFails command ↔
      Within stream.budget (lineBytes command).length ∧ ¬ Within stream.flushes 1 := by
  unfold FlushFails
  by_cases hbudget : Within stream.budget (lineBytes command).length
  · rw [write_of_within hbudget, Outcome.result_done, Outcome.state_done]
    by_cases hflush : Within (stream.charge (lineBytes command)).flushes 1
    · have hwithin : Within stream.flushes 1 := hflush
      simp [flush_of_within hflush, hwithin]
    · have hnot : ¬ Within stream.flushes 1 := hflush
      simp [flush_of_not_within hflush, hbudget, hnot]
  · simp [write_of_not_within hbudget, hbudget]

/-- A command is taken, or its line is cut, or the flush after the line fails. -/
theorem send_cases (command : String) (stream : Stream) :
    let outcome := stream.send command
    (¬ stream.FlushFails command ∧ outcome.result = .ok () ∧
        outcome.events = [.write (lineBytes command), .flush]) ∨
      (¬ stream.FlushFails command ∧ outcome.result = .error stream.failure ∧
        ∃ part, part <+: lineBytes command ∧ part ≠ lineBytes command ∧
          outcome.events = writeEvents part) ∨
      stream.FlushFails command ∧ outcome.result = .error stream.failure ∧
        outcome.events = [.write (lineBytes command)] := by
  rw [flushFails_iff]
  by_cases hbudget : Within stream.budget (lineBytes command).length
  · by_cases hflush : Within stream.flushes 1
    · rw [send_of_within hbudget hflush]
      exact Or.inl ⟨fun hfails => hfails.2 hflush, rfl, rfl⟩
    · rw [send_of_flush_not_within hbudget hflush]
      exact Or.inr (Or.inr ⟨⟨hbudget, hflush⟩, rfl, rfl⟩)
  · have hshort : stream.accepted (lineBytes command) ≠ lineBytes command := by
      intro hwhole
      have hlength := length_accepted_lt hbudget
      rw [hwhole] at hlength
      omega
    rw [send_of_not_within hbudget]
    exact Or.inr (Or.inl ⟨fun hfails => hbudget hfails.1, rfl, _, stream.accepted_isPrefix _,
      hshort, rfl⟩)

end Stream

/-! ## One request -/

/-- An outcome is a delivery of keys: its events are those of the delivery, it fails when the
delivery is not complete, and of the commands that it adds to the record one fails at its flush when
the delivery ends so. -/
structure Delivers {α : Type} (delay : Nat) (names : List String) (ending : Ending)
    (calls : List (Sink.Call Stream)) (o : Outcome (Stream × List (Sink.Call Stream)) α) :
    Prop where
  delivery : Delivery delay names ending (withoutLog o.events)
  failed : (∃ failure, o.result = .error failure) ↔ ending ≠ .complete
  recorded : ∃ new, o.state.2 = calls ++ new ∧
    ((∃ call ∈ new, call.state.FlushFails call.command) ↔ ending = .unflushed)

namespace Delivers

variable {α β : Type} {delay : Nat} {names more : List String} {ending : Ending}
  {calls : List (Sink.Call Stream)} {o : Outcome (Stream × List (Sink.Call Stream)) α}

theorem done (a : α) (state : Stream × List (Sink.Call Stream)) :
    Delivers delay [] .complete state.2 (.done a state []) where
  delivery := .nil
  failed := by simp
  recorded := ⟨[], by simp⟩

/-- Records that are logged first change nothing. -/
theorem after (h : Delivers delay names ending calls o) {events : List Event}
    (hevents : withoutLog events = []) : Delivers delay names ending calls (o.after events) where
  delivery := by
    rw [Outcome.events_after, withoutLog_append, hevents, List.nil_append]
    exact h.delivery
  failed := h.failed
  recorded := h.recorded

theorem map (h : Delivers delay names ending calls o) (f : α → β) :
    Delivers delay names ending calls (o.map f) where
  delivery := h.delivery
  failed := by
    rw [← h.failed]
    obtain ⟨result, state, events⟩ := o
    cases result <;> simp [Outcome.map, Except.map]
  recorded := h.recorded

/-- Two deliveries joined are a delivery of the keys of both. -/
theorem andThen {next : α → Stream × List (Sink.Call Stream) →
      Outcome (Stream × List (Sink.Call Stream)) β}
    (h : Delivers delay names ending calls o)
    (hnext : ∀ a state, ∃ ending, Delivers delay more ending state.2 (next a state)) :
    ∃ ending, Delivers delay (names ++ more) ending calls (o.andThen next) := by
  obtain ⟨result, state, events⟩ := o
  obtain ⟨hdelivery, hfailed, new, hnew, hflush⟩ := h
  cases result with
  | error failure =>
    have hending : ending ≠ .complete := hfailed.1 ⟨failure, rfl⟩
    exact ⟨ending, hdelivery.append_of_ne hending more, by simpa using hending, new, hnew, hflush⟩
  | ok a =>
    have hending : ending = .complete := by simpa using hfailed
    subst hending
    obtain ⟨last, hlast⟩ := hnext a state
    obtain ⟨added, hadded, hlastflush⟩ := hlast.recorded
    refine ⟨last, ?_, hlast.failed, new ++ added, ?_, ?_⟩
    · show Delivery delay (names ++ more) last (withoutLog (events ++ (next a state).events))
      rw [withoutLog_append]
      exact hdelivery.append hlast.delivery
    · show (next a state).state.2 = calls ++ (new ++ added)
      rw [hadded, ← List.append_assoc]
      exact congrArg (· ++ added) hnew
    · simp only [List.mem_append, or_and_right, exists_or, hflush, hlastflush]
      simp

end Delivers

section Answer

variable (delay : Nat) (filter : Log.Filter)

/-- One key: the record gets the command, whether the stream takes it or not. -/
theorem recording_sendkey_of_ne {name : String} (hname : name ≠ KeyName.wait)
    (state : Stream × List (Sink.Call Stream)) :
    let sent := state.1.send (KeyName.command name)
    let record := state.2 ++ [⟨KeyName.command name, state.1⟩]
    (Sender.mk streamSink delay filter).recording.sendkey name state =
      (Outcome.andThen ⟨sent.result, (sent.state, record), sent.events⟩ fun _ state =>
        .done true state [.pause delay]).after
          (filter.log .debug .sender (KeyName.command name)) := by
  rw [Sender.sendkey, if_neg hname]
  rfl

theorem delivers_sendkey (name : String) (state : Stream × List (Sink.Call Stream)) :
    ∃ ending, Delivers delay [name] ending state.2
      ((Sender.mk streamSink delay filter).recording.sendkey name state) := by
  by_cases hname : name = KeyName.wait
  · subst hname
    rw [Sender.sendkey, if_pos rfl]
    refine ⟨.complete, ?_, by simp, [], by simp⟩
    simpa using Delivery.wait .nil
  · have hline := KeyName.line_of_ne hname
    rw [recording_sendkey_of_ne delay filter hname]
    rcases Stream.send_cases (KeyName.command name) state.1 with
      ⟨hflush, hresult, hevents⟩ | ⟨hflush, hresult, part, hpart, hshort, hevents⟩ |
        ⟨hflush, hresult, hevents⟩
    · rw [hresult, hevents, ← hline]
      refine ⟨.complete, Delivers.after ?_ (by simp)⟩
      exact ⟨.key hname .nil, by simp [Outcome.andThen, Outcome.after], _, rfl,
        by simpa using hflush⟩
    · rw [hresult, hevents]
      refine ⟨.cut, Delivers.after ?_ (by simp)⟩
      rw [← hline] at hpart hshort
      exact ⟨by simpa using .cut hname hpart hshort [], by simp, _, rfl, by simpa using hflush⟩
    · rw [hresult, hevents, ← hline]
      refine ⟨.unflushed, Delivers.after ?_ (by simp)⟩
      exact ⟨.unflushed hname [], by simp, _, rfl, by simpa using hflush⟩

theorem delivers_sendTokens (tokens : List Token) (state : Stream × List (Sink.Call Stream)) :
    ∃ ending, Delivers delay (tokens.map Token.keyName) ending state.2
      ((Sender.mk streamSink delay filter).recording.sendTokens tokens state) := by
  induction tokens generalizing state with
  | nil => exact ⟨.complete, .done 0 state⟩
  | cons t tokens ih =>
    obtain ⟨ending, hkey⟩ := delivers_sendkey delay filter t.keyName state
    rw [Sender.sendTokens, Sender.sendToken, List.map_cons, ← List.singleton_append]
    refine Delivers.andThen (hkey.after (withoutLog_log _ _ _ _)) fun sent next => ?_
    obtain ⟨last, hrest⟩ := ih next
    exact ⟨last, hrest.map _⟩

theorem delivers_recording_answer (request : Sender.Request)
    (state : Stream × List (Sink.Call Stream)) :
    ∃ ending, Delivers delay request.names ending state.2
      ((Sender.mk streamSink delay filter).recording.answer request state) := by
  cases request with
  | run input =>
    obtain ⟨ending, hrun⟩ := delivers_sendTokens delay filter (tokenize input) state
    exact ⟨ending, hrun.map Sender.Reply.count⟩
  | sendkey name =>
    obtain ⟨ending, hkey⟩ := delivers_sendkey delay filter name state
    exact ⟨ending, hkey.map Sender.Reply.pressed⟩
  | limit budget =>
    exact ⟨.complete, .done Sender.Reply.done (streamSink.limit budget state.1, state.2)⟩

/-- Every request is answered by a delivery of its keys. -/
theorem delivery_answer (request : Sender.Request) (stream : Stream) :
    let sender : Sender Stream := ⟨streamSink, delay, filter⟩
    let outcome := sender.answer request stream
    ∃ ending, Delivery delay request.names ending (withoutLog outcome.events) ∧
      ((∃ failure, outcome.result = .error failure) ↔ ending ≠ .complete) ∧
      ((∃ call ∈ sender.calls request stream, call.state.FlushFails call.command) ↔
        ending = .unflushed) := by
  intro sender outcome
  obtain ⟨ending, hdelivers⟩ := delivers_recording_answer delay filter request (stream, [])
  have hforget : (sender.recording.answer request (stream, [])).mapState Prod.fst = outcome :=
    sender.forget_answer_recording request (stream, [])
  have hevents : (sender.recording.answer request (stream, [])).events = outcome.events :=
    congrArg Outcome.events hforget
  have hresult : (sender.recording.answer request (stream, [])).result = outcome.result :=
    congrArg Outcome.result hforget
  obtain ⟨new, hnew, hflush⟩ := hdelivers.recorded
  have hcalls : sender.calls request stream = new := hnew
  refine ⟨ending, ?_, ?_, ?_⟩
  · rw [← hevents]
    exact hdelivers.delivery
  · rw [← hresult]
    exact hdelivers.failed
  · rw [hcalls]
    exact hflush

/-- A request writes a beginning of the lines of its keys, and all of them when it succeeds.  It
fails exactly when a part of them is missing or one of its flushes failed, and a pause that follows
no flush is that of a wait. -/
theorem answer_streamSink (request : Sender.Request) (stream : Stream) :
    let sender : Sender Stream := ⟨streamSink, delay, filter⟩
    let outcome := sender.answer request stream
    let output := written outcome.events
    output <+: request.translation ∧
      (∀ reply, outcome.result = .ok reply → output = request.translation) ∧
      ((∃ failure, outcome.result = .error failure) ↔ output ≠ request.translation ∨
        ∃ call ∈ sender.calls request stream, call.state.FlushFails call.command) ∧
      ∀ before nanoseconds after,
        withoutLog outcome.events = before ++ .pause nanoseconds :: after →
          before.getLast? ≠ some .flush →
            nanoseconds = waitPause ∧
              request.names[(before.filterMap Event.pause?).length]? = some KeyName.wait := by
  intro sender outcome output
  obtain ⟨ending, hdelivery, hfailed, hflush⟩ := delivery_answer delay filter request stream
  obtain ⟨left, hleft, hcomplete, hcut⟩ := hdelivery.exists_left
  rw [← Sender.Request.translation_eq, written_withoutLog] at hleft
  change request.translation = output ++ left at hleft
  have hwhole : output = request.translation ↔ left = [] := by
    rw [hleft]
    simp
  refine ⟨⟨left, hleft.symm⟩, ?_, ?_, fun before nanoseconds after hsplit hlast =>
    hdelivery.wait_of_pause hsplit hlast⟩
  · intro reply hreply
    have hending : ending = .complete := by
      by_contra hne
      obtain ⟨failure, hfailure⟩ := hfailed.2 hne
      have hboth : Except.ok reply = Except.error failure := hreply.symm.trans hfailure
      cases hboth
    exact hwhole.2 (hcomplete hending)
  · rw [hfailed, hflush, ne_eq, ne_eq, hwhole]
    cases ending with
    | complete => simp [hcomplete rfl]
    | cut => simp [hcut rfl]
    | unflushed => simp

end Answer

/-! ## Histories -/

/-- The events of a history keep the pace. -/
theorem paced_history (delay : Nat) (filter : Log.Filter) (requests : List Sender.Request)
    (stream : Stream) :
    Paced delay (withoutLog
      (((Sender.mk streamSink delay filter).history requests stream).flatMap Outcome.events)) := by
  induction requests generalizing stream with
  | nil => exact .nil
  | cons request requests ih =>
    obtain ⟨ending, hdelivery, -, -⟩ := delivery_answer delay filter request stream
    rw [Sender.history, List.flatMap_cons, withoutLog_append]
    exact hdelivery.paced.append (ih _)

end MonitorKeys
