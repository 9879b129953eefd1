import MonitorKeys.Host
import MonitorKeys.Proofs.Program
import MonitorKeys.Proofs.Stream.History

/-!
# What the log has to do with what is sent

Nothing that is sent depends on which records are logged.  A run under a filter is the run with all
records, and the filter takes out of it the records that it does not admit and nothing else.

* `Log.Filter.leaves` are the events that a filter leaves, and `Outcome.under` is an outcome with
  these events.  Both go through every way of joining steps.
* `Sink.LogsUnder` says of a sink that it has the outcomes of another one under a filter:
  `logsUnder_streamSink` for streams, which log nothing, and `logsUnder_commandSink` for children.
* `under_answer` carries this from a command over to a request, and `under_history` from a request
  over to a history.
* `runs_differ_only_in_log` compares the runs under any two filters, for histories and for the whole
  program.
-/

namespace MonitorKeys

open Text (Bytes)

variable {σ τ α β : Type}

/-! ## The events that a filter leaves -/

namespace Log.Filter

/-- The filter that admits every record. -/
def full : Filter := .upTo (some .trace)

/-- Whether an event is left when only the admitted records are logged. -/
def keeps (filter : Filter) : Event → Bool
  | .log record => filter.admits record
  | _ => true

/-- The events that are left when only the admitted records are logged. -/
def leaves (filter : Filter) (events : List Event) : List Event :=
  events.filter filter.keeps

theorem admits_upTo (threshold : Threshold) (record : Record) :
    (upTo threshold).admits record = threshold.allows record.level := rfl

theorem admits_full (record : Record) : full.admits record = true := by
  rw [full, admits_upTo]
  obtain ⟨level, target, text⟩ := record
  cases level <;> rfl

@[simp] theorem leaves_nil (filter : Filter) : filter.leaves [] = [] := rfl

@[simp] theorem leaves_append (filter : Filter) (a b : List Event) :
    filter.leaves (a ++ b) = filter.leaves a ++ filter.leaves b :=
  List.filter_append a b

/-- A filter leaves the record that it would have logged. -/
@[simp] theorem leaves_log (filter : Filter) (level : Level) (target : Target) (text : String) :
    filter.leaves (full.log level target text) = filter.log level target text := by
  have hfull : full.log level target text = [.log ⟨level, target, text⟩] := by
    simp [Filter.log, admits_full]
  rw [hfull, Filter.log, leaves, List.filter_cons, List.filter_nil]
  rfl

/-- An event that is no record is left by every filter. -/
theorem keeps_of_not_isLog (filter : Filter) {e : Event} (h : e.isLog = false) :
    filter.keeps e = true := by
  cases e with
  | log record => cases h
  | _ => rfl

/-- What is no record is left by every filter. -/
@[simp] theorem leaves_of_withoutLog_eq (filter : Filter) {events : List Event}
    (h : withoutLog events = events) : filter.leaves events = events := by
  rw [leaves, List.filter_eq_self]
  intro e he
  rw [withoutLog, List.filter_eq_self] at h
  exact filter.keeps_of_not_isLog (by simpa using h e he)

/-- Filters take out records only. -/
theorem withoutLog_leaves (filter : Filter) (events : List Event) :
    withoutLog (filter.leaves events) = withoutLog events := by
  rw [withoutLog, leaves, List.filter_filter, withoutLog]
  congr 1
  funext e
  cases h : e.isLog with
  | true => rfl
  | false => simp [filter.keeps_of_not_isLog h]

end Log.Filter

namespace Outcome

/-- An outcome with the events that a filter leaves. -/
def under (filter : Log.Filter) (o : Outcome σ α) : Outcome σ α :=
  { o with events := filter.leaves o.events }

@[simp] theorem result_under (filter : Log.Filter) (o : Outcome σ α) :
    (o.under filter).result = o.result := rfl

@[simp] theorem state_under (filter : Log.Filter) (o : Outcome σ α) :
    (o.under filter).state = o.state := rfl

@[simp] theorem events_under (filter : Log.Filter) (o : Outcome σ α) :
    (o.under filter).events = filter.leaves o.events := rfl

@[simp] theorem under_done (filter : Log.Filter) (a : α) (state : σ) (events : List Event) :
    (done a state events).under filter = done a state (filter.leaves events) := rfl

@[simp] theorem under_map (filter : Log.Filter) (f : α → β) (o : Outcome σ α) :
    (o.map f).under filter = (o.under filter).map f := rfl

@[simp] theorem under_after (filter : Log.Filter) (events : List Event) (o : Outcome σ α) :
    (o.after events).under filter = (o.under filter).after (filter.leaves events) := by
  simp [under, after]

@[simp] theorem under_andThen (filter : Log.Filter) (o : Outcome σ α)
    (next : α → σ → Outcome σ β) :
    (o.andThen next).under filter =
      (o.under filter).andThen fun a state => (next a state).under filter := by
  obtain ⟨result, state, events⟩ := o
  cases result with
  | error failure => rfl
  | ok a => exact under_after filter events (next a state)

/-- Without its records an outcome is the same under every filter. -/
@[simp] theorem quiet_under (filter : Log.Filter) (o : Outcome σ α) :
    (o.under filter).quiet = o.quiet := by
  rw [quiet, events_under, Log.Filter.withoutLog_leaves]
  rfl

end Outcome

/-! ## Sinks -/

/-- A sink has the outcomes of another one, with the records that a filter leaves. -/
structure Sink.LogsUnder (filter : Log.Filter) (loud sink : Sink σ) : Prop where
  send : ∀ command state, (loud.send command state).under filter = sink.send command state
  limit : ∀ budget state, loud.limit budget state = sink.limit budget state

/-- A stream logs nothing itself. -/
theorem logsUnder_streamSink (filter : Log.Filter) :
    Sink.LogsUnder filter streamSink streamSink where
  send command stream := by
    have hsilent : withoutLog (stream.send command).events = (stream.send command).events := by
      rcases stream.send_cases command with ⟨-, -, h⟩ | ⟨-, -, part, -, -, h⟩ | ⟨-, -, h⟩
      · rw [h]
        rfl
      · rw [h, Stream.withoutLog_writeEvents]
      · rw [h]
        rfl
    show Outcome.under filter (stream.send command) = stream.send command
    rw [Outcome.under, filter.leaves_of_withoutLog_eq hsilent]
  limit _ _ := rfl

theorem leaves_startEvents (filter : Log.Filter) (text : String) (line : Bytes)
    (refusal : Option String) :
    filter.leaves (startEvents .full text line refusal) = startEvents filter text line refusal := by
  cases refusal with
  | none => rfl
  | some cause =>
    simp only [startEvents, Log.Filter.leaves_append, Log.Filter.leaves_log]
    rfl

/-- The records about a child come at the same places whatever is logged. -/
theorem leaves_child_events (filter : Log.Filter) (text : String) (line : Bytes) (child : Child) :
    filter.leaves (child.events .full text line) = child.events filter text line := by
  cases child with
  | failed cause =>
    rw [Child.events, Log.Filter.leaves_append, Log.Filter.leaves_log]
    rfl
  | ended refusal status output errors =>
    have hended : filter.leaves (if status.success then []
          else Log.Filter.full.log .warn .sender ("'" ++ text ++ "' exited with " ++ status.text)) =
        if status.success then []
        else filter.log .warn .sender ("'" ++ text ++ "' exited with " ++ status.text) := by
      split
      · rfl
      · exact filter.leaves_log _ _ _
    rw [Child.events, Log.Filter.leaves_append, Log.Filter.leaves_append, leaves_startEvents,
      hended]
    rfl
  | lost refusal cause =>
    rw [Child.events, Log.Filter.leaves_append, leaves_startEvents, Log.Filter.leaves_log]
    rfl

/-- What a child does is up to its launcher, and the log only tells of it. -/
theorem logsUnder_commandSink (launcher : Launcher σ) (filter : Log.Filter) (text : String) :
    Sink.LogsUnder filter (commandSink launcher .full text) (commandSink launcher filter text) where
  send command state := by
    show Outcome.done () _ (filter.leaves (Child.events .full text (lineBytes command) _)) = _
    rw [leaves_child_events]
    rfl
  limit _ _ := rfl

/-! ## Requests and histories -/

namespace Sender

section Under

variable {filter : Log.Filter} {loud sink : Sink σ} (h : Sink.LogsUnder filter loud sink)
  (delay : Nat)

include h

theorem under_sendkey (name : String) (state : σ) :
    ((Sender.mk loud delay .full).sendkey name state).under filter =
      (Sender.mk sink delay filter).sendkey name state := by
  unfold sendkey
  split
  · rw [Outcome.under_done, Log.Filter.leaves_append, Log.Filter.leaves_log]
    rfl
  · rw [Outcome.under_after, Outcome.under_andThen, Log.Filter.leaves_log, h.send]
    rfl

theorem under_sendToken (t : Token) (state : σ) :
    ((Sender.mk loud delay .full).sendToken t state).under filter =
      (Sender.mk sink delay filter).sendToken t state := by
  rw [sendToken, Outcome.under_after, Log.Filter.leaves_log, under_sendkey h]
  rfl

theorem under_sendTokens (tokens : List Token) (state : σ) :
    ((Sender.mk loud delay .full).sendTokens tokens state).under filter =
      (Sender.mk sink delay filter).sendTokens tokens state := by
  induction tokens generalizing state with
  | nil => rfl
  | cons t tokens ih =>
    simp only [sendTokens, Outcome.under_andThen, Outcome.under_map, under_sendToken h, ih]

/-- A request is answered in the same way, and logged as far as the filter admits it. -/
theorem under_answer (request : Request) (state : σ) :
    ((Sender.mk loud delay .full).answer request state).under filter =
      (Sender.mk sink delay filter).answer request state := by
  cases request with
  | run input =>
    exact congrArg (Outcome.map Reply.count) (under_sendTokens h delay (tokenize input) state)
  | sendkey name => exact congrArg (Outcome.map Reply.pressed) (under_sendkey h delay name state)
  | limit budget => simp only [answer, Outcome.under_done, h.limit, Log.Filter.leaves_nil]

/-- A filter takes records out of a history and leaves all the rest.  Each request comes in the
state that it would have come in with the full log. -/
theorem under_history (requests : List Request) (state : σ) :
    ((Sender.mk loud delay .full).history requests state).map (Outcome.under filter) =
      (Sender.mk sink delay filter).history requests state := by
  induction requests generalizing state with
  | nil => rfl
  | cons request requests ih =>
    have hanswer := under_answer h delay request state
    have hstate : ((Sender.mk loud delay .full).answer request state).state =
        ((Sender.mk sink delay filter).answer request state).state := by
      rw [← hanswer, Outcome.state_under]
    rw [history, List.map_cons, hanswer, ih, hstate]
    rfl

end Under

end Sender

/-- Histories under all filters differ in their log alone. -/
structure DifferOnlyInLog (history : Log.Filter → List (Outcome σ Sender.Reply)) : Prop where
  /-- Each request has the same result under any two filters. -/
  results : ∀ filter other,
    (history filter).map Outcome.result = (history other).map Outcome.result
  /-- Log records apart the same happens for each request, in the same order. -/
  events : ∀ filter other,
    (history filter).map (fun o => withoutLog o.events) =
      (history other).map fun o => withoutLog o.events
  /-- The records are those of the full log that the filter admits, at their places. -/
  records : ∀ filter,
    (history filter).map Outcome.events =
      (history (.upTo (some .trace))).map fun o => o.events.filter fun
        | .log record => filter.admits record
        | _ => true
  /-- Up to a level these are the records of that level and of those above it. -/
  levels : ∀ threshold : Log.Threshold,
    (history (.upTo threshold)).map Outcome.events =
      (history (.upTo (some .trace))).map fun o => o.events.filter fun
        | .log record => threshold.allows record.level
        | _ => true

theorem differOnlyInLog_of_under {history : Log.Filter → List (Outcome σ Sender.Reply)}
    (h : ∀ filter, (history .full).map (Outcome.under filter) = history filter) :
    DifferOnlyInLog history where
  results filter other := by
    rw [← h filter, ← h other, List.map_map, List.map_map]
    rfl
  events filter other := by
    simp only [← h filter, ← h other, List.map_map, Function.comp_def, Outcome.events_under,
      Log.Filter.withoutLog_leaves]
  records filter := by
    rw [← h filter, List.map_map]
    rfl
  levels threshold := by
    have hkeeps : (Log.Filter.upTo threshold).keeps = fun
        | .log record => threshold.allows record.level
        | _ => true := by
      funext e
      cases e with
      | log record => exact Log.Filter.admits_upTo threshold record
      | _ => rfl
    rw [← h (.upTo threshold), List.map_map, ← hkeeps]
    rfl

/-! ## The whole program -/

namespace Program

/-- The status is that of what was sent, whatever is logged. -/
theorem status_finish_congr (filter other : Log.Filter) (task : String) {a : Outcome σ Nat}
    {b : Outcome τ Nat} (h : a.result = b.result) :
    (finish filter task a).status = (finish other task b).status := by
  cases hresult : a.result with
  | ok sent => rw [finish_of_ok filter task hresult, finish_of_ok other task (h ▸ hresult)]
  | error failure =>
    rw [(finish_of_error filter task hresult).1, (finish_of_error other task (h ▸ hresult)).1]

/-- A run on a stream is the same under any two filters, log records apart. -/
theorem quiet_run_streamSink (delay : Nat) (filter other : Log.Filter) (input : String)
    (stream : Stream) :
    ((Sender.mk streamSink delay filter).run input stream).quiet =
      ((Sender.mk streamSink delay other).run input stream).quiet := by
  rw [Sender.run, Sender.run,
    ← Sender.under_sendTokens (logsUnder_streamSink filter) delay (tokenize input) stream,
    ← Sender.under_sendTokens (logsUnder_streamSink other) delay (tokenize input) stream,
    Outcome.quiet_under, Outcome.quiet_under]

/-- Without a command neither the log setting nor the host decides about the status or about the
output, where the command line is read as the same invocation. -/
theorem run_alike (host : Host σ) (host' : Host τ) (setting other : Option String)
    (stdout : Stream) (world : σ) (world' : τ) {argv : List Bytes} {invocation : Invocation}
    (hparse : host.parse argv = .ok invocation) (hparse' : host'.parse argv = .ok invocation)
    (hcommand : invocation.command = none) :
    let report := run host setting stdout world argv
    let report' := run host' other stdout world' argv
    report.status = report'.status ∧ report.output = report'.output := by
  intro report report'
  obtain ⟨before, hbefore, hrun⟩ := run_of_ok host setting stdout world hparse
  obtain ⟨before', hbefore', hrun'⟩ := run_of_ok host' other stdout world' hparse'
  have hquiet := quiet_run_streamSink invocation.delayNanoseconds
    (host.logging (setting.getD usualSetting)).1 (host'.logging (other.getD usualSetting)).1
    invocation.inputText stdout
  simp only [report, report', hrun, hrun', send, hcommand]
  constructor
  · have hresult := congrArg Outcome.result hquiet
    rw [Outcome.result_quiet, Outcome.result_quiet] at hresult
    exact status_finish_congr _ _ writing hresult
  · rw [Report.output_eq, Report.output_eq, withoutLog_events_after hbefore,
      withoutLog_events_after hbefore', withoutLog_events_finish, withoutLog_events_finish]
    exact congrArg (fun o => o.events.flatMap fun e => (Effect.event e).output) hquiet

end Program

/-- Which records are logged changes nothing else.  Any history on a stream, and any history with
the same children, has the same results and log records apart the same events under every filter,
and the records under a filter are those of the full log that it admits, where they stand there.
The program without a command ends with the same status and the same output for every log setting
and on every host that reads the command line as this invocation. -/
theorem runs_differ_only_in_log (delay : Nat) (requests : List Sender.Request) (stream : Stream)
    (launcher : Launcher σ) (text : String) (world : σ) :
    DifferOnlyInLog
        (fun filter => (Sender.mk streamSink delay filter).history requests stream) ∧
      DifferOnlyInLog
        (fun filter =>
          (Sender.mk (commandSink launcher filter text) delay filter).history requests world) ∧
      ∀ (host : Host σ) (host' : Host τ) (world' : τ) (argv : List Bytes)
        (invocation : Invocation) (stdout : Stream) (setting other : Option String),
        host.parse argv = .ok invocation → host'.parse argv = .ok invocation →
          invocation.command = none →
          let report := Program.run host setting stdout world argv
          let report' := Program.run host' other stdout world' argv
          report.status = report'.status ∧ report.output = report'.output := by
  refine ⟨?_, ?_, ?_⟩
  · exact differOnlyInLog_of_under fun filter =>
      Sender.under_history (logsUnder_streamSink filter) delay requests stream
  · exact differOnlyInLog_of_under fun filter =>
      Sender.under_history (logsUnder_commandSink launcher filter text) delay requests world
  · intro host host' world' argv invocation stdout setting other hparse hparse' hcommand
    exact Program.run_alike host host' setting other stdout world world' hparse hparse' hcommand

/-- The output ends in the second line, and the log is full in one run and off in the other. -/
theorem runs_differ_only_in_log_cut_line :
    let argv := ["sendkeys", "a<wait>B"].map Text.bytesOf
    let stdout : Stream := { budget := some 12 }
    let world : Shell.World := {}
    let loud := Program.run .usual (some "trace") stdout world argv
    let silent := Program.run .usual (some "off") stdout world argv
    Host.usual.parse argv = .ok ⟨none, none, some "a<wait>B"⟩ ∧
      loud.status = silent.status ∧ loud.output = silent.output := by
  intro argv stdout world loud silent
  have hparse : Host.usual.parse argv = .ok ⟨none, none, some "a<wait>B"⟩ := by
    decide +kernel
  obtain ⟨hstatus, houtput⟩ :=
    (runs_differ_only_in_log 0 [] stdout Shell.launcher "" world).2.2 .usual .usual world argv _
      stdout (some "trace") (some "off") hparse hparse rfl
  exact ⟨hparse, hstatus, houtput⟩

end MonitorKeys
