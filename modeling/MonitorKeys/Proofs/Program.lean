import MonitorKeys.Program
import MonitorKeys.Proofs.Sink.Children
import MonitorKeys.Proofs.Sink.Recording

/-!
# How a run of the program ends

A run ends in one of three ways, and which of them is up to the command line: it stops there, or it
gives its keys to shell commands, or it writes them to the standard output.  The log, the output and
the children decide only how far the last two of them come.

* `Report.events` are the events of a run, and `withoutLog_events_finish` says that they are those
  of sending the text, log records apart.
* `Printed`, `Refused`, `Piped` and `Streamed` are what is left behind by the ways to end.
* `piped_send` and `streamed_send` carry out an accepted command line.  On the output either all
  tokens are sent, `streamed_of_complete`, or the line of one is cut, `streamed_of_cut`.
* `run_outcome` puts this together for every command line.
-/

namespace MonitorKeys

open Text (Bytes bytesOf)

variable {σ : Type}

namespace Program

/-! ## The events of a report -/

/-- The event that an effect is; a message is none. -/
def Effect.event? : Effect → Option Event
  | event e => some e
  | complaint _ => none

/-- The events of a run. -/
def Report.events (report : Report) : List Event :=
  report.effects.filterMap Effect.event?

theorem filterMap_event?_map_event (events : List Event) :
    (events.map Effect.event).filterMap Effect.event? = events := by
  rw [List.filterMap_map]
  exact List.filterMap_some

theorem filterMap_event?_map_complaint (texts : List String) :
    (texts.map Effect.complaint).filterMap Effect.event? = [] := by
  rw [List.filterMap_map]
  exact List.filterMap_eq_nil_iff.2 fun _ _ => rfl

theorem Report.events_after (effects : List Effect) (report : Report) :
    (report.after effects).events = effects.filterMap Effect.event? ++ report.events :=
  List.filterMap_append

/-- Neither messages nor log records go to the standard output. -/
theorem Report.output_eq (report : Report) :
    report.output = (withoutLog report.events).flatMap fun e => (Effect.event e).output := by
  obtain ⟨status, effects⟩ := report
  show effects.flatMap Effect.output =
    (withoutLog (effects.filterMap Effect.event?)).flatMap fun e => (Effect.event e).output
  induction effects with
  | nil => rfl
  | cons effect effects ih =>
    rw [List.flatMap_cons, ih]
    cases effect with
    | complaint text => rfl
    | event e => cases e <;> rfl

/-- Log records apart, sending leaves the events of the run that it is. -/
theorem withoutLog_events_finish (filter : Log.Filter) (task : String) (outcome : Outcome σ Nat) :
    withoutLog (finish filter task outcome).events = withoutLog outcome.events := by
  obtain ⟨result, state, events⟩ := outcome
  cases result with
  | ok sent =>
    simp only [finish, Report.events, List.filterMap_append, filterMap_event?_map_event,
      withoutLog_append, withoutLog_log, List.append_nil]
  | error failure =>
    simp only [finish, Report.events, List.filterMap_append, filterMap_event?_map_event]
    show withoutLog (events ++ []) = withoutLog events
    rw [List.append_nil]

/-! ## Ways to end -/

/-- A text was printed as far as the output accepts it, and nothing else happened. -/
structure Printed (stdout : Stream) (text : String) (report : Report) : Prop where
  status : report.status = 0
  events : report.events = Stream.writeEvents (stdout.accepted (bytesOf text))
  output : report.output = stdout.accepted (bytesOf text)

/-- The command line was not accepted, and nothing happened but a message. -/
structure Refused (message : String) (report : Report) : Prop where
  status : report.status = 2
  events : report.events = []
  output : report.output = []
  message : report.effects.getLast? = some (.complaint message)

/-- The keys went to shell commands, and nothing was written to the output but by these. -/
structure Piped (report : Report) : Prop where
  status : report.status = 0
  written : written report.events = []

/-- Every line that comes to the standard output is written and flushed. -/
def TakesEveryLine (filter : Log.Filter) (stdout : Stream) (invocation : Invocation) : Prop :=
  let sender : Sender Stream := ⟨streamSink, invocation.delayNanoseconds, filter⟩
  ∀ call ∈ sender.calls (.run invocation.inputText) stdout,
    let line := call.state.write (lineBytes call.command)
    line.result = .ok () ∧ line.state.flush.result = .ok ()

/-- The keys went to the standard output, as far as it took them. -/
structure Streamed (filter : Log.Filter) (stdout : Stream) (invocation : Invocation)
    (report : Report) : Prop where
  /-- No child is started. -/
  spawns : report.events.filterMap Event.spawn? = []
  /-- The output is a beginning of the translation. -/
  output : report.output <+: translation invocation.inputText
  /-- Without a text the output is empty. -/
  missing : invocation.input = none → report.output = []
  /-- The run succeeds when every line is written and flushed. -/
  succeeds : report.status = 0 ↔ TakesEveryLine filter stdout invocation
  /-- Then the output is the whole translation. -/
  whole : report.status = 0 → report.output = translation invocation.inputText
  /-- Otherwise the status is 1, and a message ends the run.  The tokens before the one that failed
  were sent as always, and after the part of its line that fits there is no flush and no pause. -/
  failed : report.status ≠ 0 → report.status = 1 ∧
    report.effects.getLast? = some (.complaint (failureText writing stdout.failure)) ∧
    ∃ before t after, tokenize invocation.inputText = before ++ t :: after ∧
      t ≠ .escape "wait" ∧
      withoutLog report.events =
        before.flatMap (Token.block invocation.delayNanoseconds) ++
          Stream.writeEvents (stdout.fitting before t)

/-! ## Sending -/

theorem output_writeEvents (bytes : Bytes) :
    ((Stream.writeEvents bytes).flatMap fun e => (Effect.event e).output) = bytes := by
  unfold Stream.writeEvents
  split
  · rename_i hnil
    rw [hnil]
    rfl
  · simp [Effect.output]

theorem output_flatMap_block (delay : Nat) (tokens : List Token) :
    ((tokens.flatMap (Token.block delay)).flatMap fun e => (Effect.event e).output) =
      translationOf tokens := by
  have hblock (t : Token) :
      ((t.block delay).flatMap fun e => (Effect.event e).output) = t.line := by
    by_cases h : t = .escape "wait"
    · rw [h, block_wait, line_wait]
      rfl
    · rw [block_of_ne h]
      simp [Effect.output]
  rw [List.flatMap_assoc, translationOf]
  exact congrArg (tokens.flatMap ·) (funext hblock)

theorem filterMap_spawn?_flatMap_block (delay : Nat) (tokens : List Token) :
    (tokens.flatMap (Token.block delay)).filterMap Event.spawn? = [] := by
  rw [List.filterMap_eq_nil_iff]
  intro e he
  obtain ⟨t, -, ht⟩ := List.mem_flatMap.1 he
  unfold Token.block at ht
  split at ht
  · rw [List.mem_singleton.1 ht]
    rfl
  · simp only [List.mem_cons, List.not_mem_nil, or_false] at ht
    rcases ht with rfl | rfl | rfl <;> rfl

theorem filterMap_spawn?_writeEvents (bytes : Bytes) :
    (Stream.writeEvents bytes).filterMap Event.spawn? = [] := by
  unfold Stream.writeEvents
  split <;> rfl

theorem finish_of_ok (filter : Log.Filter) (task : String) {outcome : Outcome σ Nat} {sent : Nat}
    (h : outcome.result = .ok sent) : (finish filter task outcome).status = 0 := by
  simp only [finish, h]

theorem finish_of_error (filter : Log.Filter) (task : String) {outcome : Outcome σ Nat}
    {failure : OutputFailure} (h : outcome.result = .error failure) :
    let report := finish filter task outcome
    report.status = 1 ∧
      report.effects.getLast? = some (.complaint (failureText task failure)) := by
  simp [finish, h]

theorem status_finish_eq_zero_iff (filter : Log.Filter) (task : String) (outcome : Outcome σ Nat) :
    (finish filter task outcome).status = 0 ↔ ∃ sent, outcome.result = .ok sent := by
  cases h : outcome.result with
  | ok sent => simp [finish_of_ok filter task h]
  | error failure => simp [(finish_of_error filter task h).1]

/-- A stream takes a command when it accepts the line and is flushed after it. -/
theorem taken_streamSink_iff (call : Sink.Call Stream) :
    call.Taken streamSink ↔
      (call.state.write (lineBytes call.command)).result = .ok () ∧
        (call.state.write (lineBytes call.command)).state.flush.result = .ok () := by
  show (call.state.send call.command).result = .ok () ↔ _
  cases h : (call.state.write (lineBytes call.command)).result with
  | ok u =>
    rw [Stream.send, Outcome.andThen_of_ok h, Outcome.result_after]
    simp
  | error failure =>
    rw [Stream.send, Outcome.andThen_of_error h]
    simp

/-- A run on a stream ends well when every line of it is written and flushed. -/
theorem status_finish_streamSink (filter : Log.Filter) (stdout : Stream)
    (invocation : Invocation) :
    let sender : Sender Stream := ⟨streamSink, invocation.delayNanoseconds, filter⟩
    (finish filter writing (sender.run invocation.inputText stdout)).status = 0 ↔
      TakesEveryLine filter stdout invocation := by
  intro sender
  rw [status_finish_eq_zero_iff, sender.run_ok_iff]
  exact forall₂_congr fun call _ => taken_streamSink_iff call

/-- Of a text that is not given nothing can be sent. -/
theorem output_of_missing {invocation : Invocation} {report : Report}
    (houtput : report.output <+: translation invocation.inputText) (h : invocation.input = none) :
    report.output = [] := by
  rw [Invocation.inputText, h, translation, tokenize, Option.getD_none, String.toList_empty,
    Token.scan_nil] at houtput
  exact List.prefix_nil.1 houtput

section Streamed

variable {filter : Log.Filter} {stdout : Stream} {invocation : Invocation} {report : Report}
  (hsucceeds : report.status = 0 ↔ TakesEveryLine filter stdout invocation)

include hsucceeds

/-- All tokens were sent. -/
theorem streamed_of_complete (hstatus : report.status = 0)
    (hevents : withoutLog report.events =
      (tokenize invocation.inputText).flatMap (Token.block invocation.delayNanoseconds)) :
    Streamed filter stdout invocation report := by
  have houtput : report.output = translation invocation.inputText := by
    rw [Report.output_eq, hevents, output_flatMap_block, translation]
  have hprefix : report.output <+: translation invocation.inputText := houtput ▸ List.prefix_rfl
  exact
    { spawns := by
        rw [← filterMap_spawn?_withoutLog, hevents, filterMap_spawn?_flatMap_block]
      output := hprefix
      missing := output_of_missing hprefix
      succeeds := hsucceeds
      whole := fun _ => houtput
      failed := fun hne => absurd hstatus hne }

/-- The line of a token was cut, or not flushed. -/
theorem streamed_of_cut {before after : List Token} {t : Token} (hstatus : report.status = 1)
    (hlast : report.effects.getLast? = some (.complaint (failureText writing stdout.failure)))
    (hsplit : tokenize invocation.inputText = before ++ t :: after) (ht : t ≠ .escape "wait")
    (hevents : withoutLog report.events =
      before.flatMap (Token.block invocation.delayNanoseconds) ++
        Stream.writeEvents (stdout.fitting before t)) :
    Streamed filter stdout invocation report := by
  have houtput : report.output = translationOf before ++ stdout.fitting before t := by
    rw [Report.output_eq, hevents, List.flatMap_append, output_flatMap_block, output_writeEvents]
  have hprefix : report.output <+: translation invocation.inputText := by
    rw [houtput, translation, hsplit, translationOf_append, List.prefix_append_right_inj,
      translationOf, List.flatMap_cons]
    exact (stdout.fitting_isPrefix before t).trans (List.prefix_append _ _)
  have hne : report.status ≠ 0 := by
    rw [hstatus]
    decide
  exact
    { spawns := by
        rw [← filterMap_spawn?_withoutLog, hevents, List.filterMap_append,
          filterMap_spawn?_flatMap_block, filterMap_spawn?_writeEvents, List.append_nil]
      output := hprefix
      missing := output_of_missing hprefix
      succeeds := hsucceeds
      whole := fun hzero => absurd hzero hne
      failed := fun _ => ⟨hstatus, hlast, before, t, after, hsplit, ht, hevents⟩ }

end Streamed

section Send

variable (filter : Log.Filter) (stdout : Stream) (launcher : Launcher σ) (world : σ)
  {invocation : Invocation} {before : List Effect}
  (hbefore : withoutLog (before.filterMap Effect.event?) = [])

include hbefore

/-- What comes before a report and is no event but a log record does not show among its events. -/
theorem withoutLog_events_after (report : Report) :
    withoutLog (report.after before).events = withoutLog report.events := by
  rw [Report.events_after, withoutLog_append, hbefore, List.nil_append]

/-- Keys for a shell command: the children decide nothing about the end. -/
theorem piped_send {text : String} (hcommand : invocation.command = some text) :
    Piped ((send filter stdout launcher invocation world).after before) := by
  let sender : Sender σ := ⟨commandSink launcher filter text, invocation.delayNanoseconds, filter⟩
  have hsend : send filter stdout launcher invocation world =
      finish filter piping (sender.run invocation.inputText world) := by
    simp only [send, hcommand]
    rfl
  have hresult := (sender.sendTokens_of_accepts (tokenize invocation.inputText)
    (accepts_commandSink launcher filter text world)).1
  have hrelayed := (relayed_sendTokens launcher text invocation.delayNanoseconds filter
    (tokenize invocation.inputText) world).2
  rw [hsend]
  constructor
  · exact finish_of_ok filter _ hresult
  · rw [← written_withoutLog, withoutLog_events_after hbefore, withoutLog_events_finish]
    exact hrelayed.written_eq_nil

/-- Keys for the standard output: it alone decides about the end. -/
theorem streamed_send (hcommand : invocation.command = none) :
    Streamed filter stdout invocation
      ((send filter stdout launcher invocation world).after before) := by
  let sender : Sender Stream := ⟨streamSink, invocation.delayNanoseconds, filter⟩
  let outcome := sender.run invocation.inputText stdout
  have hsend : send filter stdout launcher invocation world = finish filter writing outcome := by
    simp only [send, hcommand]
    rfl
  rw [hsend]
  have hevents : withoutLog ((finish filter writing outcome).after before).events =
      outcome.quiet.events := by
    rw [withoutLog_events_after hbefore, withoutLog_events_finish, Outcome.events_quiet]
  have hsucceeds := status_finish_streamSink filter stdout invocation
  rcases quiet_run_cases invocation.delayNanoseconds filter stdout invocation.inputText with
    hquiet | ⟨first, t, rest, hsplit, ht, hquiet⟩
  · have hresult : outcome.result = .ok _ := congrArg Outcome.result hquiet
    exact streamed_of_complete hsucceeds (finish_of_ok filter _ hresult)
      (hevents.trans (congrArg Outcome.events hquiet))
  · have hresult : outcome.result = .error _ := congrArg Outcome.result hquiet
    obtain ⟨hstatus, hlast⟩ := finish_of_error filter writing hresult
    refine streamed_of_cut hsucceeds hstatus ?_ hsplit ht
      (hevents.trans (congrArg Outcome.events hquiet))
    rw [Report.after, List.getLast?_append, hlast]
    rfl

end Send

/-! ## Stopping at the command line -/

theorem Report.events_after_complaints (texts : List String) (report : Report) :
    (report.after (texts.map Effect.complaint)).events = report.events := by
  rw [Report.events_after, filterMap_event?_map_complaint, List.nil_append]

theorem refused_stopped (stdout : Stream) (message : String) (warnings : List String) :
    Refused message
      ((stopped stdout (.refused message)).after (warnings.map Effect.complaint)) where
  status := rfl
  events := Report.events_after_complaints warnings _
  output := by
    rw [Report.output_eq, Report.events_after_complaints]
    rfl
  message := List.getLast?_concat

theorem printed_stopped (stdout : Stream) (text : String) (warnings : List String) :
    Printed stdout text
      ((stopped stdout (.answered text)).after (warnings.map Effect.complaint)) := by
  have hevents : ((stopped stdout (.answered text)).after (warnings.map Effect.complaint)).events =
      Stream.writeEvents (stdout.accepted (bytesOf text)) := by
    rw [Report.events_after_complaints]
    exact filterMap_event?_map_event _
  exact
    { status := rfl
      events := hevents
      output := by
        rw [Report.output_eq, hevents, Stream.withoutLog_writeEvents, output_writeEvents] }

/-! ## Whole runs -/

section Run

variable (host : Host σ) (setting : Option String) (stdout : Stream) (world : σ)
  {argv : List Bytes}

theorem run_of_error {stop : Arguments.Stop} (h : host.parse argv = .error stop) :
    run host setting stdout world argv =
      (stopped stdout stop).after
        ((host.logging (setting.getD usualSetting)).2.map Effect.complaint) := by
  simp only [run, h]

/-- An accepted command line is carried out after warnings and log records. -/
theorem run_of_ok {invocation : Invocation} (h : host.parse argv = .ok invocation) :
    ∃ before : List Effect, withoutLog (before.filterMap Effect.event?) = [] ∧
      run host setting stdout world argv =
        (send (host.logging (setting.getD usualSetting)).1 stdout host.launcher invocation
          world).after before := by
  let filter := (host.logging (setting.getD usualSetting)).1
  let warnings := (host.logging (setting.getD usualSetting)).2
  refine ⟨warnings.map Effect.complaint ++
    (filter.log .info .program (startText invocation)).map Effect.event, ?_, ?_⟩
  · rw [List.filterMap_append, filterMap_event?_map_complaint, filterMap_event?_map_event,
      List.nil_append, withoutLog_log]
  · simp only [run, h, Report.after, List.append_assoc]
    rfl

end Run

end Program

end MonitorKeys
