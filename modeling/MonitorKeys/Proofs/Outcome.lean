import MonitorKeys.Sink

/-!
# How steps on a sink fit together

Sending a text is a chain of steps joined by `Outcome.andThen`.  The laws of this file say that such
a chain may be read in any grouping, and what a step that succeeds or fails makes of it.

`Outcome.quiet` leaves the log records out of an outcome.  It goes through every way of joining
steps, so the behaviour without the log is found step by step.
-/

namespace MonitorKeys

namespace Outcome

variable {σ α β γ : Type}

/-! ## The parts of an outcome -/

@[simp] theorem result_done (a : α) (state : σ) (events : List Event) :
    (done a state events).result = .ok a := rfl

@[simp] theorem state_done (a : α) (state : σ) (events : List Event) :
    (done a state events).state = state := rfl

@[simp] theorem events_done (a : α) (state : σ) (events : List Event) :
    (done a state events).events = events := rfl

@[simp] theorem result_after (events : List Event) (o : Outcome σ α) :
    (o.after events).result = o.result := rfl

@[simp] theorem events_after (events : List Event) (o : Outcome σ α) :
    (o.after events).events = events ++ o.events := rfl

/-- A step that succeeded is its value, its state and its events. -/
theorem eq_done_of_ok {o : Outcome σ α} {a : α} (h : o.result = .ok a) :
    o = done a o.state o.events := by
  rw [done, ← h]

/-! ## Joining steps -/

@[simp] theorem after_nil (o : Outcome σ α) : o.after [] = o := rfl

@[simp] theorem map_self (o : Outcome σ α) : (o.map fun a => a) = o := by
  obtain ⟨result, state, events⟩ := o
  cases result <;> rfl

theorem map_map (f : α → β) (g : β → γ) (o : Outcome σ α) :
    (o.map f).map g = o.map fun a => g (f a) := by
  obtain ⟨result, state, events⟩ := o
  cases result <;> rfl

@[simp] theorem map_done (f : α → β) (a : α) (state : σ) (events : List Event) :
    (done a state events).map f = done (f a) state events := rfl

@[simp] theorem after_done (a : α) (state : σ) (first second : List Event) :
    (done a state second).after first = done a state (first ++ second) := rfl

/-- After a step that succeeds the next one begins in its state. -/
@[simp] theorem done_andThen (a : α) (state : σ) (events : List Event)
    (next : α → σ → Outcome σ β) :
    (done a state events).andThen next = (next a state).after events := rfl

/-- A step that fails ends the chain. -/
@[simp] theorem error_andThen (failure : OutputFailure) (state : σ) (events : List Event)
    (next : α → σ → Outcome σ β) :
    andThen ⟨.error failure, state, events⟩ next = ⟨.error failure, state, events⟩ := rfl

theorem andThen_of_ok {o : Outcome σ α} {a : α} (h : o.result = .ok a)
    (next : α → σ → Outcome σ β) : o.andThen next = (next a o.state).after o.events := by
  rw [andThen, h]

theorem andThen_of_error {o : Outcome σ α} {failure : OutputFailure} (h : o.result = .error failure)
    (next : α → σ → Outcome σ β) : o.andThen next = ⟨.error failure, o.state, o.events⟩ := by
  rw [andThen, h]

/-- A property that a state has after the first step and after the second one it has after both. -/
theorem andThen_keeps {P : σ → Prop} {o : Outcome σ α} {next : α → σ → Outcome σ β}
    (h : P o.state) (hnext : ∀ a, P (next a o.state).state) : P (o.andThen next).state := by
  obtain ⟨result, state, events⟩ := o
  cases result with
  | error failure => exact h
  | ok a => exact hnext a

theorem after_andThen (events : List Event) (o : Outcome σ α) (next : α → σ → Outcome σ β) :
    (o.after events).andThen next = (o.andThen next).after events := by
  obtain ⟨result, state, own⟩ := o
  cases result <;> simp [andThen, after]

theorem map_andThen (f : α → β) (o : Outcome σ α) (next : β → σ → Outcome σ γ) :
    (o.map f).andThen next = o.andThen fun a state => next (f a) state := by
  obtain ⟨result, state, events⟩ := o
  cases result <;> rfl

theorem andThen_map (o : Outcome σ α) (next : α → σ → Outcome σ β) (f : β → γ) :
    (o.andThen next).map f = o.andThen fun a state => (next a state).map f := by
  obtain ⟨result, state, events⟩ := o
  cases result <;> rfl

/-- A chain of three steps may be grouped either way. -/
theorem andThen_assoc (o : Outcome σ α) (second : α → σ → Outcome σ β)
    (third : β → σ → Outcome σ γ) :
    (o.andThen second).andThen third =
      o.andThen fun a state => (second a state).andThen third := by
  obtain ⟨result, state, events⟩ := o
  cases result with
  | error failure => rfl
  | ok a => exact after_andThen events (second a state) third

end Outcome

/-! ## Leaving the log out -/

/-- Events without the log records among them. -/
def withoutLog (events : List Event) : List Event :=
  events.filter fun e => !e.isLog

@[simp] theorem withoutLog_nil : withoutLog [] = [] := rfl

@[simp] theorem withoutLog_append (a b : List Event) :
    withoutLog (a ++ b) = withoutLog a ++ withoutLog b :=
  List.filter_append a b

@[simp] theorem withoutLog_pause (nanoseconds : Nat) :
    withoutLog [.pause nanoseconds] = [.pause nanoseconds] := rfl

/-- Logging a record leaves nothing behind but the record. -/
@[simp] theorem withoutLog_log (filter : Log.Filter) (level : Log.Level) (target : Log.Target)
    (text : String) : withoutLog (filter.log level target text) = [] := by
  by_cases h : filter.admits ⟨level, target, text⟩
  · simp [Log.Filter.log, h, withoutLog, Event.isLog]
  · simp [Log.Filter.log, h]

/-- What is picked from events that are no log records is picked without them. -/
theorem filterMap_withoutLog {α : Type} {pick : Event → Option α}
    (h : ∀ record, pick (.log record) = none) (events : List Event) :
    (withoutLog events).filterMap pick = events.filterMap pick := by
  rw [withoutLog, List.filterMap_filter]
  congr
  funext e
  cases e with
  | log record => exact (h record).symm
  | _ => rfl

/-- No log record is a pause. -/
theorem filterMap_pause?_withoutLog (events : List Event) :
    (withoutLog events).filterMap Event.pause? = events.filterMap Event.pause? :=
  filterMap_withoutLog (fun _ => rfl) events

/-- No log record starts a child. -/
theorem filterMap_spawn?_withoutLog (events : List Event) :
    (withoutLog events).filterMap Event.spawn? = events.filterMap Event.spawn? :=
  filterMap_withoutLog (fun _ => rfl) events

namespace Outcome

variable {σ α β : Type}

/-- An outcome without its log records. -/
def quiet (o : Outcome σ α) : Outcome σ α :=
  { o with events := withoutLog o.events }

@[simp] theorem result_quiet (o : Outcome σ α) : o.quiet.result = o.result := rfl

@[simp] theorem state_quiet (o : Outcome σ α) : o.quiet.state = o.state := rfl

@[simp] theorem events_quiet (o : Outcome σ α) : o.quiet.events = withoutLog o.events := rfl

@[simp] theorem quiet_mk (result : Except OutputFailure α) (state : σ) (events : List Event) :
    quiet ⟨result, state, events⟩ = ⟨result, state, withoutLog events⟩ := rfl

@[simp] theorem quiet_done (a : α) (state : σ) (events : List Event) :
    (done a state events).quiet = done a state (withoutLog events) := rfl

@[simp] theorem quiet_after (events : List Event) (o : Outcome σ α) :
    (o.after events).quiet = o.quiet.after (withoutLog events) := by
  simp [quiet, after]

@[simp] theorem quiet_map (f : α → β) (o : Outcome σ α) : (o.map f).quiet = o.quiet.map f := rfl

@[simp] theorem quiet_andThen (o : Outcome σ α) (next : α → σ → Outcome σ β) :
    (o.andThen next).quiet = o.quiet.andThen fun a state => (next a state).quiet := by
  obtain ⟨result, state, events⟩ := o
  cases result with
  | error failure => rfl
  | ok a => exact quiet_after events (next a state)

end Outcome

end MonitorKeys
