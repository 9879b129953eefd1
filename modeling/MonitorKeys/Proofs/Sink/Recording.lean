import MonitorKeys.Proofs.Outcome
import MonitorKeys.Sender

/-!
# Which commands come to a sink

A command leaves a trace in the events only where the sink does something with it.
`Sink.recording` works as a given sink and also keeps every command that it is sent, with the state
in which it came, and `Sender.calls` is what a request adds to that record.

* `Sink.Refines` says that one sink does what another one does, seen through a function on states,
  and `mapState_answer` carries that from single commands over to whole requests.
* `forget_answer_recording` is the case of the record: keeping it changes nothing else.
* `state_run_recording` says that a record only grows, whatever is in it already, and `run_ok_iff`
  that a run succeeds exactly when the sink takes every command in it.
* `length_calls_le` says that a run has no more commands than tokens, also when it fails.
-/

namespace MonitorKeys

variable {σ τ α β : Type}

namespace Outcome

/-- An outcome with its state seen through a function. -/
def mapState (f : σ → τ) (o : Outcome σ α) : Outcome τ α :=
  ⟨o.result, f o.state, o.events⟩

@[simp] theorem result_mapState (f : σ → τ) (o : Outcome σ α) :
    (o.mapState f).result = o.result := rfl

@[simp] theorem state_mapState (f : σ → τ) (o : Outcome σ α) :
    (o.mapState f).state = f o.state := rfl

@[simp] theorem events_mapState (f : σ → τ) (o : Outcome σ α) :
    (o.mapState f).events = o.events := rfl

@[simp] theorem mapState_done (f : σ → τ) (a : α) (state : σ) (events : List Event) :
    (done a state events).mapState f = done a (f state) events := rfl

@[simp] theorem mapState_after (f : σ → τ) (events : List Event) (o : Outcome σ α) :
    (o.after events).mapState f = (o.mapState f).after events := rfl

@[simp] theorem mapState_map (f : σ → τ) (g : α → β) (o : Outcome σ α) :
    (o.map g).mapState f = (o.mapState f).map g := rfl

/-- A chain of steps is seen through a function when each of its steps is. -/
theorem mapState_andThen {f : σ → τ} {next : α → σ → Outcome σ β} (o : Outcome σ α)
    (coarse : α → τ → Outcome τ β)
    (h : ∀ a state, (next a state).mapState f = coarse a (f state)) :
    (o.andThen next).mapState f = (o.mapState f).andThen coarse := by
  obtain ⟨result, state, events⟩ := o
  cases result with
  | error failure => rfl
  | ok a =>
    show ((next a state).mapState f).after events = (coarse a (f state)).after events
    rw [h]

end Outcome

namespace Sink

/-- A sink does with each command what another one does, seen through a function on states. -/
structure Refines (sink : Sink σ) (f : σ → τ) (coarse : Sink τ) : Prop where
  send : ∀ command state, (sink.send command state).mapState f = coarse.send command (f state)
  limit : ∀ budget state, f (sink.limit budget state) = coarse.limit budget (f state)

/-- A command and the state of the sink in which it came. -/
structure Call (σ : Type) where
  command : String
  state : σ

/-- A sink that also keeps the commands that it is sent, those that fail included. -/
def recording (sink : Sink σ) : Sink (σ × List (Call σ)) where
  send command state :=
    let outcome := sink.send command state.1
    ⟨outcome.result, (outcome.state, state.2 ++ [⟨command, state.1⟩]), outcome.events⟩
  limit budget state := (sink.limit budget state.1, state.2)

theorem refines_recording (sink : Sink σ) : sink.recording.Refines Prod.fst sink where
  send _ _ := rfl
  limit _ _ := rfl

end Sink

namespace Sender

section Refines

variable {fine : Sink σ} {f : σ → τ} {coarse : Sink τ} (h : fine.Refines f coarse)
  (delay : Nat) (filter : Log.Filter)

include h

theorem mapState_sendkey (name : String) (state : σ) :
    ((Sender.mk fine delay filter).sendkey name state).mapState f =
      (Sender.mk coarse delay filter).sendkey name (f state) := by
  unfold sendkey
  split
  · rfl
  · rw [Outcome.mapState_after,
      Outcome.mapState_andThen _ (fun _ state => .done true state [.pause delay]) fun _ _ => rfl,
      h.send]

theorem mapState_sendToken (t : Token) (state : σ) :
    ((Sender.mk fine delay filter).sendToken t state).mapState f =
      (Sender.mk coarse delay filter).sendToken t (f state) := by
  rw [sendToken, sendToken, Outcome.mapState_after, mapState_sendkey h]

theorem mapState_sendTokens (tokens : List Token) (state : σ) :
    ((Sender.mk fine delay filter).sendTokens tokens state).mapState f =
      (Sender.mk coarse delay filter).sendTokens tokens (f state) := by
  induction tokens generalizing state with
  | nil => rfl
  | cons t tokens ih =>
    let rest (sent : Bool) (state : τ) : Outcome τ Nat :=
      ((Sender.mk coarse delay filter).sendTokens tokens state).map (· + sent.toNat)
    rw [sendTokens, sendTokens, Outcome.mapState_andThen _ rest, mapState_sendToken h]
    intro sent state
    rw [Outcome.mapState_map, ih]

theorem mapState_run (input : String) (state : σ) :
    ((Sender.mk fine delay filter).run input state).mapState f =
      (Sender.mk coarse delay filter).run input (f state) :=
  mapState_sendTokens h delay filter (tokenize input) state

/-- A request is answered as the other sink answers it. -/
theorem mapState_answer (request : Request) (state : σ) :
    ((Sender.mk fine delay filter).answer request state).mapState f =
      (Sender.mk coarse delay filter).answer request (f state) := by
  cases request with
  | run input => simp only [answer, Outcome.mapState_map, mapState_run h]
  | sendkey name => simp only [answer, Outcome.mapState_map, mapState_sendkey h]
  | limit budget => simp only [answer, Outcome.mapState_done, h.limit]

end Refines

/-- A sender whose sink keeps the commands that it is sent. -/
def recording (sender : Sender σ) : Sender (σ × List (Sink.Call σ)) :=
  ⟨sender.sink.recording, sender.delay, sender.filter⟩

/-- The commands that come to the sink for a request. -/
def calls (sender : Sender σ) (request : Request) (state : σ) : List (Sink.Call σ) :=
  (sender.recording.answer request (state, [])).state.2

/-- Keeping the commands changes nothing else. -/
theorem forget_answer_recording (sender : Sender σ) (request : Request)
    (state : σ × List (Sink.Call σ)) :
    (sender.recording.answer request state).mapState Prod.fst =
      sender.answer request state.1 :=
  mapState_answer sender.sink.refines_recording sender.delay sender.filter request state

theorem forget_run_recording (sender : Sender σ) (input : String)
    (state : σ × List (Sink.Call σ)) :
    (sender.recording.run input state).mapState Prod.fst = sender.run input state.1 :=
  mapState_run sender.sink.refines_recording sender.delay sender.filter input state

/-- The commands of a run are added to those that are in the record already. -/
theorem state_run_recording (sender : Sender σ) (input : String) (state : σ)
    (record : List (Sink.Call σ)) :
    (sender.recording.run input (state, record)).state =
      ((sender.run input state).state, record ++ sender.calls (.run input) state) := by
  let onto (s : σ × List (Sink.Call σ)) := (s.1, record ++ s.2)
  have hrefines : sender.sink.recording.Refines onto sender.sink.recording :=
    { send := fun command s => by simp [Outcome.mapState, Sink.recording, onto]
      limit := fun _ _ => rfl }
  have hrecord : onto (sender.recording.run input (state, [])).state =
      (sender.recording.run input (onto (state, []))).state :=
    congrArg Outcome.state
      (mapState_run hrefines sender.delay sender.filter input (state, []))
  have hforget :
      (sender.recording.run input (state, [])).state.1 = (sender.run input state).state :=
    congrArg Outcome.state (sender.forget_run_recording input (state, []))
  have honto : onto (state, []) = (state, record) := by simp [onto]
  rw [← honto, ← hrecord, ← hforget]
  rfl

end Sender

/-! ## Commands that are taken -/

/-- The sink takes the command in the state in which it comes. -/
def Sink.Call.Taken (sink : Sink σ) (call : Sink.Call σ) : Prop :=
  (sink.send call.command call.state).result = .ok ()

/-- An outcome adds commands to the record, and succeeds exactly when all of these are taken. -/
def Records (sink : Sink σ) (record : List (Sink.Call σ))
    (o : Outcome (σ × List (Sink.Call σ)) α) : Prop :=
  ∃ new, o.state.2 = record ++ new ∧ ((∃ a, o.result = .ok a) ↔ ∀ call ∈ new, call.Taken sink)

namespace Records

variable {sink : Sink σ} {record : List (Sink.Call σ)} {o : Outcome (σ × List (Sink.Call σ)) α}

theorem done (a : α) (state : σ × List (Sink.Call σ)) (events : List Event) :
    Records sink state.2 (.done a state events) :=
  ⟨[], by simp⟩

theorem after (h : Records sink record o) (events : List Event) :
    Records sink record (o.after events) := h

theorem map (h : Records sink record o) (f : α → β) : Records sink record (o.map f) := by
  obtain ⟨new, hnew, htaken⟩ := h
  refine ⟨new, hnew, ?_⟩
  rw [← htaken]
  obtain ⟨result, state, events⟩ := o
  cases result <;> simp [Outcome.map, Except.map]

/-- The second step adds to the record of the first one, unless that failed. -/
theorem andThen {next : α → σ × List (Sink.Call σ) → Outcome (σ × List (Sink.Call σ)) β}
    (h : Records sink record o) (hnext : ∀ a state, Records sink state.2 (next a state)) :
    Records sink record (o.andThen next) := by
  obtain ⟨result, state, events⟩ := o
  obtain ⟨new, hnew, htaken⟩ := h
  cases result with
  | error failure =>
    refine ⟨new, hnew, ?_⟩
    rw [← htaken]
    simp
  | ok a =>
    obtain ⟨more, hmore, hmoreTaken⟩ := hnext a state
    have hall : ∀ call ∈ new, call.Taken sink := htaken.1 ⟨a, rfl⟩
    refine ⟨new ++ more, ?_, ?_⟩
    · show (next a state).state.2 = record ++ (new ++ more)
      rw [hmore, ← List.append_assoc]
      exact congrArg (· ++ more) hnew
    · rw [List.forall_mem_append, and_iff_right hall, ← hmoreTaken]
      rfl

end Records

namespace Sender

variable (sender : Sender σ)

theorem records_sendkey (name : String) (state : σ × List (Sink.Call σ)) :
    Records sender.sink state.2 (sender.recording.sendkey name state) := by
  unfold sendkey
  split
  · exact .done false state _
  · have hsend : Records sender.sink state.2
        (sender.recording.sink.send (KeyName.command name) state) := by
      refine ⟨[⟨KeyName.command name, state.1⟩], rfl, ?_⟩
      rw [List.forall_mem_singleton]
      exact ⟨fun ⟨_, hok⟩ => hok, fun htaken => ⟨(), htaken⟩⟩
    exact (hsend.andThen fun _ state => .done true state _).after _

theorem records_sendTokens (tokens : List Token) (state : σ × List (Sink.Call σ)) :
    Records sender.sink state.2 (sender.recording.sendTokens tokens state) := by
  induction tokens generalizing state with
  | nil => exact .done 0 state []
  | cons t tokens ih =>
    exact ((sender.records_sendkey t.keyName state).after _).andThen fun sent state =>
      (ih state).map _

/-- A run succeeds exactly when the sink takes all the commands that come to it. -/
theorem run_ok_iff (input : String) (state : σ) :
    (∃ sent, (sender.run input state).result = .ok sent) ↔
      ∀ call ∈ sender.calls (.run input) state, call.Taken sender.sink := by
  obtain ⟨new, hnew, htaken⟩ := sender.records_sendTokens (tokenize input) (state, [])
  have hcalls : sender.calls (.run input) state = new := hnew
  have hresult := congrArg Outcome.result (sender.forget_run_recording input (state, []))
  rw [hcalls, ← htaken, ← hresult]
  rfl

/-! ## The length of the record -/

/-- The second step adds to the record after the first one, unless that failed. -/
theorem length_record_andThen_le {o : Outcome (σ × List (Sink.Call σ)) α}
    {next : α → σ × List (Sink.Call σ) → Outcome (σ × List (Sink.Call σ)) β} {m n : Nat}
    (h : o.state.2.length ≤ m)
    (hnext : ∀ a state, (next a state).state.2.length ≤ state.2.length + n) :
    (o.andThen next).state.2.length ≤ m + n := by
  obtain ⟨result, state, events⟩ := o
  cases result with
  | error failure => exact Nat.le_trans h (Nat.le_add_right m n)
  | ok a => exact Nat.le_trans (hnext a state) (Nat.add_le_add_right h n)

theorem length_record_sendkey_le (name : String) (state : σ × List (Sink.Call σ)) :
    (sender.recording.sendkey name state).state.2.length ≤ state.2.length + 1 := by
  unfold sendkey
  split
  · exact Nat.le_succ _
  · have hsend : (sender.recording.sink.send (KeyName.command name) state).state.2.length ≤
        state.2.length + 1 :=
      Nat.le_of_eq List.length_append
    exact length_record_andThen_le (n := 0) hsend fun _ state => Nat.le_refl state.2.length

theorem length_record_sendTokens_le (tokens : List Token) (state : σ × List (Sink.Call σ)) :
    (sender.recording.sendTokens tokens state).state.2.length ≤
      state.2.length + tokens.length := by
  induction tokens generalizing state with
  | nil => exact Nat.le_refl _
  | cons t tokens ih =>
    have htoken : (sender.recording.sendToken t state).state.2.length ≤ state.2.length + 1 :=
      sender.length_record_sendkey_le t.keyName state
    rw [sendTokens, List.length_cons, Nat.add_comm tokens.length, ← Nat.add_assoc]
    exact length_record_andThen_le htoken fun _ state => ih state

/-- At most one command comes to the sink for each token, whether the run succeeds or not. -/
theorem length_calls_le (input : String) (state : σ) :
    (sender.calls (.run input) state).length ≤ (tokenize input).length := by
  have h := sender.length_record_sendTokens_le (tokenize input) (state, [])
  rwa [List.length_nil, Nat.zero_add] at h

end Sender

end MonitorKeys
