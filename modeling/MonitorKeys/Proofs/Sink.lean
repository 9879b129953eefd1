import MonitorKeys.Proofs.Sender
import MonitorKeys.Proofs.Stream
import MonitorKeys.Sink.Command

/-!
# Sinks that take every command

What a run does on a sink that never fails, whatever else the sink does.

* `Sink.sendAll` is what the sink itself does with commands, one after the other, and
  `Sink.Accepts` says that none of them fails.
* `quiet_sendTokens_of_accepts` says that tokens without a wait come to the sink as their commands,
  in order, with one pause after each, and `sendTokens_of_accepts` counts the commands and the
  pauses of any tokens.
* `accepts_streamSink` is the stream without limits, and `accepts_commandSink` is a shell command,
  whatever its children do; `Child.steps` are the events of one of them.
* `pauseless_streamSink` and `pauseless_commandSink` say that both leave the pauses to the sender.
-/

namespace MonitorKeys

variable {σ : Type}

namespace Sink

/-- The outcomes of sending commands one after the other; a failed one does not end the list. -/
def sendAll (sink : Sink σ) : List String → σ → List (Outcome σ Unit)
  | [], _ => []
  | command :: commands, state =>
    let outcome := sink.send command state
    outcome :: sink.sendAll commands outcome.state

@[simp] theorem length_sendAll (sink : Sink σ) (commands : List String) (state : σ) :
    (sink.sendAll commands state).length = commands.length := by
  induction commands generalizing state with
  | nil => rfl
  | cons command commands ih => rw [sendAll, List.length_cons, ih, List.length_cons]

/-- The state that is left behind by these commands. -/
def stateAfter (sink : Sink σ) (commands : List String) (state : σ) : σ :=
  commands.foldl (fun state command => (sink.send command state).state) state

/-- From this state on the sink takes every command, whatever it got before. -/
def Accepts (sink : Sink σ) (state : σ) : Prop :=
  ∀ commands, ∀ outcome ∈ sink.sendAll commands state, outcome.result = .ok ()

/-- A command is taken, and every command after it. -/
theorem Accepts.send {sink : Sink σ} {state : σ} (h : sink.Accepts state) (command : String) :
    (sink.send command state).result = .ok () ∧ sink.Accepts (sink.send command state).state := by
  constructor
  · exact h [command] _ (by simp [sendAll])
  · intro commands outcome houtcome
    exact h (command :: commands) outcome (List.mem_cons_of_mem _ houtcome)

/-- A sink takes everything when it can be kept in states in which it takes the next command. -/
theorem accepts_of_invariant {sink : Sink σ} (invariant : σ → Prop)
    (hsend : ∀ command state, invariant state →
      (sink.send command state).result = .ok () ∧ invariant (sink.send command state).state)
    {state : σ} (hstate : invariant state) : sink.Accepts state := by
  intro commands
  induction commands generalizing state with
  | nil => simp [Sink.sendAll]
  | cons command commands ih =>
    obtain ⟨hresult, hnext⟩ := hsend command state hstate
    intro outcome houtcome
    simp only [Sink.sendAll, List.mem_cons] at houtcome
    rcases houtcome with rfl | houtcome
    · exact hresult
    · exact ih hnext outcome houtcome

/-- The sink leaves all pauses to the sender. -/
def Pauseless (sink : Sink σ) : Prop :=
  ∀ command state, (sink.send command state).events.filterMap Event.pause? = []

theorem Pauseless.sendAll {sink : Sink σ} (h : sink.Pauseless) (commands : List String)
    (state : σ) : ∀ o ∈ sink.sendAll commands state, o.events.filterMap Event.pause? = [] := by
  induction commands generalizing state with
  | nil => simp [Sink.sendAll]
  | cons command commands ih =>
    intro o ho
    rw [Sink.sendAll, List.mem_cons] at ho
    rcases ho with rfl | ho
    · exact h command state
    · exact ih _ o ho

end Sink

/-- A stream never pauses, whether it takes a command or not. -/
theorem pauseless_streamSink : streamSink.Pauseless := by
  intro command stream
  rw [streamSink_send]
  by_cases hbudget : Within stream.budget (lineBytes command).length
  · by_cases hflush : Within stream.flushes 1
    · rw [Stream.send_of_within hbudget hflush]
      rfl
    · rw [Stream.send_of_flush_not_within hbudget hflush]
      rfl
  · rw [Stream.send_of_not_within hbudget]
    unfold Stream.writeEvents
    split
    · rfl
    · rfl

/-- A stream without limits takes everything. -/
theorem accepts_streamSink (failure : OutputFailure) :
    streamSink.Accepts { budget := none, flushes := none, failure } := by
  refine Sink.accepts_of_invariant (fun stream => stream.budget = none ∧ stream.flushes = none) ?_
    ⟨rfl, rfl⟩
  rintro command ⟨budget, flushes, own⟩ ⟨rfl, rfl⟩
  rw [streamSink_send, Stream.send_of_within (within_none _) (within_none _)]
  exact ⟨rfl, rfl, rfl⟩

/-- Children may fail in any way, and the sink still takes the next command. -/
theorem accepts_commandSink (launcher : Launcher σ) (filter : Log.Filter) (text : String)
    (state : σ) : (commandSink launcher filter text).Accepts state :=
  Sink.accepts_of_invariant (fun _ => True) (fun _ _ _ => ⟨rfl, trivial⟩) trivial

/-- The events of one child, log records apart: a child that starts is offered its line, its input
is closed, and it ends before anything else happens, where it can be waited for. -/
def Child.steps (text : String) (line : Text.Bytes) : Child → List Event
  | failed _ => [.spawn ["sh", "-c", text]]
  | ended _ status output errors =>
    [.spawn ["sh", "-c", text], .offer line, .close, .reap status output errors]
  | lost _ _ => [.spawn ["sh", "-c", text], .offer line, .close]

theorem withoutLog_startEvents (filter : Log.Filter) (text : String) (line : Text.Bytes)
    (refusal : Option String) :
    withoutLog (startEvents filter text line refusal) =
      [.spawn ["sh", "-c", text], .offer line, .close] := by
  cases refusal with
  | none => rfl
  | some cause =>
    simp only [startEvents, withoutLog_append, withoutLog_log]
    rfl

theorem withoutLog_child_events (filter : Log.Filter) (text : String) (line : Text.Bytes)
    (child : Child) : withoutLog (child.events filter text line) = child.steps text line := by
  cases child with
  | failed cause =>
    rw [Child.events, withoutLog_append, withoutLog_log]
    rfl
  | ended refusal status output errors =>
    have hended : withoutLog (if status.success then []
        else filter.log .warn .sender ("'" ++ text ++ "' exited with " ++ status.text)) = [] := by
      split
      · rfl
      · exact withoutLog_log filter _ _ _
    rw [Child.events, withoutLog_append, withoutLog_append, withoutLog_startEvents, hended]
    rfl
  | lost refusal cause =>
    rw [Child.events, withoutLog_append, withoutLog_startEvents, withoutLog_log]
    rfl

/-- No child makes the program pause. -/
theorem pauseless_commandSink (launcher : Launcher σ) (filter : Log.Filter) (text : String) :
    (commandSink launcher filter text).Pauseless := by
  intro command state
  show (Child.events filter text (lineBytes command) _).filterMap Event.pause? = []
  rw [← filterMap_pause?_withoutLog, withoutLog_child_events]
  cases (launcher.start (shellArguments text) (lineBytes command) state).1 <;> rfl

namespace Sender

/-- One token on a sink that takes its command. -/
theorem quiet_sendToken_of_ok (sender : Sender σ) {t : Token} {state : σ}
    (ht : t ≠ .escape "wait") (h : (sender.sink.send t.command state).result = .ok ()) :
    (sender.sendToken t state).quiet =
      .done true (sender.sink.send t.command state).state
        (withoutLog (sender.sink.send t.command state).events ++ [.pause sender.delay]) := by
  rw [quiet_sendToken_of_ne sender ht, Outcome.eq_done_of_ok h]
  simp

/-- Tokens without a wait come to the sink as their commands, with one pause after each. -/
theorem quiet_sendTokens_of_accepts (sender : Sender σ) {tokens : List Token} {state : σ}
    (htokens : ∀ t ∈ tokens, t ≠ .escape "wait") (h : sender.sink.Accepts state) :
    (sender.sendTokens tokens state).quiet =
      .done tokens.length (sender.sink.stateAfter (tokens.map Token.command) state)
        ((sender.sink.sendAll (tokens.map Token.command) state).flatMap fun o =>
          withoutLog o.events ++ [.pause sender.delay]) := by
  induction tokens generalizing state with
  | nil => rfl
  | cons t tokens ih =>
    obtain ⟨hresult, hnext⟩ := h.send t.command
    have hrest := ih (fun u hu => htokens u (List.mem_cons_of_mem t hu)) hnext
    rw [sendTokens, Outcome.quiet_andThen,
      sender.quiet_sendToken_of_ok (htokens t (by simp)) hresult, Outcome.done_andThen,
      Outcome.quiet_map, hrest, Outcome.map_done, Outcome.after_done, List.map_cons, Sink.sendAll,
      List.flatMap_cons]
    rfl

/-- One token on a sink that takes every command is sent, and pauses once. -/
theorem quiet_sendToken_of_accepts (sender : Sender σ) (t : Token) {state : σ}
    (h : sender.sink.Accepts state) :
    ∃ next events,
      (sender.sendToken t state).quiet = .done (decide (t ≠ .escape "wait")) next events ∧
        sender.sink.Accepts next ∧
        (sender.sink.Pauseless → events.filterMap Event.pause? = [t.pause sender.delay]) := by
  by_cases hwait : t = .escape "wait"
  · subst hwait
    refine ⟨state, [.pause waitPause], ?_, h, fun _ => ?_⟩
    · rw [quiet_sendToken_wait]
      rfl
    · rw [pause_wait]
      rfl
  · obtain ⟨hresult, hnext⟩ := h.send t.command
    rw [sender.quiet_sendToken_of_ok hwait hresult, decide_eq_true hwait]
    refine ⟨_, _, rfl, hnext, fun hpauseless => ?_⟩
    rw [List.filterMap_append, filterMap_pause?_withoutLog, hpauseless, pause_of_ne hwait]
    rfl

/-- A run on a sink that takes every command counts the tokens that press a key, and pauses once for
each token. -/
theorem sendTokens_of_accepts (sender : Sender σ) (tokens : List Token) {state : σ}
    (h : sender.sink.Accepts state) :
    (sender.sendTokens tokens state).result = .ok (commandCount tokens) ∧
      (sender.sink.Pauseless →
        (sender.sendTokens tokens state).events.filterMap Event.pause? =
          tokens.map (Token.pause sender.delay)) := by
  rw [← filterMap_pause?_withoutLog, ← Outcome.events_quiet, ← Outcome.result_quiet]
  induction tokens generalizing state with
  | nil => exact ⟨rfl, fun _ => rfl⟩
  | cons t tokens ih =>
    obtain ⟨next, events, htoken, hnext, hpause⟩ := sender.quiet_sendToken_of_accepts t h
    obtain ⟨hresult, hpauses⟩ := ih hnext
    rw [sendTokens, Outcome.quiet_andThen, htoken, Outcome.done_andThen, Outcome.quiet_map]
    constructor
    · rw [Outcome.result_after, Outcome.map, hresult, commandCount_cons]
      rfl
    · intro hpauseless
      rw [Outcome.events_after, List.filterMap_append, hpause hpauseless, List.map_cons,
        List.singleton_append]
      exact congrArg _ (hpauses hpauseless)

end Sender

end MonitorKeys
