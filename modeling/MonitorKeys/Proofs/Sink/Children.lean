import MonitorKeys.Proofs.Sink
import MonitorKeys.Proofs.Stream.Output

/-!
# What children are given

A sink that runs a shell command starts one child for each key.  Whatever the children do, the run
goes on as it would on a stream that accepts everything, and every child that starts is offered the
line that such a stream would be given.

* `Relay` is one start of a child, and `Launcher.relays` are the starts for some lines, each in the
  world that the one before it left behind.
* `Relayed` says which events the starts for some tokens are, and `relayed_sendTokens` that a run
  consists of these.
* `received_worldAfter` adds up what children took in, and `run_commandSink` compares all of this
  with the stream.
-/

namespace MonitorKeys

open Text (Bytes)

variable {σ : Type}

/-! ## Lines -/

/-- The lines of some tokens, one for each command. -/
def keyLines (tokens : List Token) : List Bytes :=
  (tokens.filter fun t => t ≠ .escape "wait").map Token.line

@[simp] theorem keyLines_nil : keyLines [] = [] := rfl

@[simp] theorem keyLines_wait_cons (tokens : List Token) :
    keyLines (.escape "wait" :: tokens) = keyLines tokens := by
  simp [keyLines]

theorem keyLines_cons_of_ne {t : Token} (h : t ≠ .escape "wait") (tokens : List Token) :
    keyLines (t :: tokens) = t.line :: keyLines tokens := by
  simp [keyLines, h]

theorem length_keyLines (tokens : List Token) :
    (keyLines tokens).length = commandCount tokens := by
  rw [keyLines, List.length_map, ← List.countP_eq_length_filter, commandCount]

/-- The lines of some tokens make up their translation. -/
theorem flatten_keyLines (tokens : List Token) :
    (keyLines tokens).flatten = translationOf tokens := by
  induction tokens with
  | nil => rfl
  | cons t tokens ih =>
    rw [translationOf, List.flatMap_cons, ← translationOf, ← ih]
    by_cases h : t = .escape "wait"
    · rw [h, keyLines_wait_cons, line_wait, List.nil_append]
    · rw [keyLines_cons_of_ne h, List.flatten_cons]

/-! ## Starts of children -/

/-- One start of a child: the line for it, the world in which it started, how it went, and the world
that it left behind. -/
structure Relay (σ : Type) where
  line : Bytes
  before : σ
  child : Child
  after : σ

namespace Launcher

variable (launcher : Launcher σ) (arguments : List String)

/-- The starts of children for some lines, one after the other. -/
def relays : List Bytes → σ → List (Relay σ)
  | [], _ => []
  | line :: lines, world =>
    let started := launcher.start arguments line world
    ⟨line, world, started.1, started.2⟩ :: relays lines started.2

/-- The world after the children for some lines. -/
def worldAfter (lines : List Bytes) (world : σ) : σ :=
  lines.foldl (fun world line => (launcher.start arguments line world).2) world

@[simp] theorem length_relays (lines : List Bytes) (world : σ) :
    (launcher.relays arguments lines world).length = lines.length := by
  induction lines generalizing world with
  | nil => rfl
  | cons line lines ih => rw [relays, List.length_cons, ih, List.length_cons]

/-- Children that all take in their whole line have taken in all lines. -/
theorem received_worldAfter {received : σ → Bytes} {lines : List Bytes} {world : σ}
    (h : ∀ relay ∈ launcher.relays arguments lines world,
      received relay.after = received relay.before ++ relay.line) :
    received (launcher.worldAfter arguments lines world) = received world ++ lines.flatten := by
  induction lines generalizing world with
  | nil => simp [worldAfter]
  | cons line lines ih =>
    rw [relays, List.forall_mem_cons] at h
    have hrest := ih h.2
    rw [h.1] at hrest
    rw [worldAfter, List.foldl_cons, ← worldAfter, hrest, List.flatten_cons, List.append_assoc]

end Launcher

/-! ## The events of children -/

/-- The events of sending tokens to children, log records apart: a wait is one pause, and any other
token is one child that is given its line, and the delay after it. -/
inductive Relayed (text : String) (delay : Nat) :
    List Token → List (Relay σ) → List Event → Prop where
  | nil : Relayed text delay [] [] []
  | wait {tokens : List Token} {relays : List (Relay σ)} {events : List Event}
      (rest : Relayed text delay tokens relays events) :
      Relayed text delay (.escape "wait" :: tokens) relays (.pause waitPause :: events)
  | key {t : Token} {relay : Relay σ} {tokens : List Token} {relays : List (Relay σ)}
      {events : List Event} (ht : t ≠ .escape "wait") (hline : relay.line = t.line)
      (rest : Relayed text delay tokens relays events) :
      Relayed text delay (t :: tokens) (relay :: relays)
        (relay.child.steps text relay.line ++ .pause delay :: events)

namespace Relayed

variable {text : String} {delay : Nat} {tokens : List Token} {relays : List (Relay σ)}
  {events : List Event}

/-- Each start is that of the shell with the same text. -/
theorem spawns (h : Relayed text delay tokens relays events) :
    events.filterMap Event.spawn? = List.replicate relays.length ["sh", "-c", text] := by
  induction h with
  | nil => rfl
  | wait _ ih => exact ih
  | @key t relay tokens relays events ht hline _ ih =>
    have hchild : (relay.child.steps text relay.line).filterMap Event.spawn? =
        [["sh", "-c", text]] := by
      cases relay.child <;> rfl
    rw [List.filterMap_append, hchild, List.length_cons, List.replicate_succ]
    exact congrArg _ ih

/-- Nothing is written to the output. -/
theorem written_eq_nil (h : Relayed text delay tokens relays events) : written events = [] := by
  induction h with
  | nil => rfl
  | wait _ ih => exact ih
  | @key t relay tokens relays events ht hline _ ih =>
    have hchild : written (relay.child.steps text relay.line) = [] := by
      cases relay.child <;> rfl
    rw [written_append, hchild]
    exact ih

end Relayed

/-! ## Runs -/

section Run

variable (launcher : Launcher σ) (text : String) (delay : Nat) (filter : Log.Filter)

/-- One token with a line is one child and the delay. -/
theorem quiet_sendToken_commandSink {t : Token} (h : t ≠ .escape "wait") (world : σ) :
    ((Sender.mk (commandSink launcher filter text) delay filter).sendToken t world).quiet =
      .done true (launcher.start ["sh", "-c", text] t.line world).2
        ((launcher.start ["sh", "-c", text] t.line world).1.steps text t.line ++
          [.pause delay]) := by
  have hsend : (commandSink launcher filter text).send t.command world =
      .done () (launcher.start ["sh", "-c", text] t.line world).2
        ((launcher.start ["sh", "-c", text] t.line world).1.events filter text t.line) := by
    rw [line_of_ne h]
    rfl
  rw [Sender.quiet_sendToken_of_ne _ h, hsend, Outcome.quiet_done, Outcome.done_andThen,
    Outcome.after_done, withoutLog_child_events]

/-- A run relays the lines of its tokens, each child in the world of the one before it. -/
theorem relayed_sendTokens (tokens : List Token) (world : σ) :
    let sender : Sender σ := ⟨commandSink launcher filter text, delay, filter⟩
    let arguments := ["sh", "-c", text]
    (sender.sendTokens tokens world).quiet.state =
        launcher.worldAfter arguments (keyLines tokens) world ∧
      Relayed text delay tokens (launcher.relays arguments (keyLines tokens) world)
        (sender.sendTokens tokens world).quiet.events := by
  intro sender arguments
  induction tokens generalizing world with
  | nil => exact ⟨rfl, .nil⟩
  | cons t tokens ih =>
    rw [Sender.sendTokens, Outcome.quiet_andThen]
    by_cases h : t = .escape "wait"
    · obtain ⟨hstate, hrest⟩ := ih world
      rw [h, Sender.quiet_sendToken_wait, Outcome.done_andThen, keyLines_wait_cons]
      exact ⟨hstate, .wait hrest⟩
    · obtain ⟨hstate, hrest⟩ := ih (launcher.start arguments t.line world).2
      rw [quiet_sendToken_commandSink launcher text delay filter h, Outcome.done_andThen,
        keyLines_cons_of_ne h]
      rw [Outcome.events_after, List.append_assoc, Launcher.relays]
      exact ⟨hstate, .key h rfl hrest⟩

end Run

/-- Whatever the children do, a run that gives its keys to a shell command succeeds with the count
that it has on a stream that accepts everything, and pauses as it does there.  It starts the shell
once for each command, with the same three arguments each time; a child that starts is offered the
line of its token, and before the pause and the next start its input is closed and it has ended,
where it can be waited for.
Children that take in their whole line have taken in together what the stream would be given. -/
theorem run_commandSink (launcher : Launcher σ) (text : String) (delay : Nat) (filter : Log.Filter)
    (failure : OutputFailure) (input : String) (world : σ) :
    let outcome := (Sender.mk (commandSink launcher filter text) delay filter).run input world
    let streamed := (Sender.mk streamSink delay filter).run input (.unlimited failure)
    let relays := launcher.relays ["sh", "-c", text] (keyLines (tokenize input)) world
    outcome.result = .ok (commandCount (tokenize input)) ∧
      outcome.result = streamed.result ∧
      outcome.events.filterMap Event.pause? = streamed.events.filterMap Event.pause? ∧
      outcome.events.filterMap Event.spawn? =
        List.replicate (commandCount (tokenize input)) ["sh", "-c", text] ∧
      Relayed text delay (tokenize input) relays (withoutLog outcome.events) ∧
      ∀ received : σ → Bytes,
        (∀ relay ∈ relays, received relay.after = received relay.before ++ relay.line) →
          received outcome.state = received world ++ written streamed.events := by
  intro outcome streamed relays
  obtain ⟨hresult, hpauses⟩ := Sender.sendTokens_of_accepts
    ⟨commandSink launcher filter text, delay, filter⟩ (tokenize input)
    (accepts_commandSink launcher filter text world)
  obtain ⟨hstreamed, hstreamedPauses⟩ := Sender.sendTokens_of_accepts
    ⟨streamSink, delay, filter⟩ (tokenize input) (accepts_streamSink failure)
  obtain ⟨hstate, hrelayed⟩ := relayed_sendTokens launcher text delay filter (tokenize input) world
  refine ⟨hresult, hresult.trans hstreamed.symm,
    (hpauses (pauseless_commandSink launcher filter text)).trans
      (hstreamedPauses pauseless_streamSink).symm, ?_, hrelayed, ?_⟩
  · have hspawns := hrelayed.spawns
    rwa [Launcher.length_relays, length_keyLines, Outcome.events_quiet,
      filterMap_spawn?_withoutLog] at hspawns
  · intro received htaken
    have hreceived := launcher.received_worldAfter ["sh", "-c", text] htaken
    rw [flatten_keyLines, ← hstate] at hreceived
    rw [(run_unlimited delay filter failure input).2]
    exact hreceived

/-- Children that take in everything and are killed have the two lines between them, and nothing of
the wait. -/
theorem run_commandSink_killed :
    let launcher : Launcher Bytes :=
      ⟨fun _ line world => (.ended none (.signal 9) [] [], world ++ line)⟩
    let outcome :=
      (Sender.mk (commandSink launcher (.upTo none) "cat") 7 (.upTo none)).run "a<wait>B" []
    let relays := launcher.relays ["sh", "-c", "cat"] (keyLines (tokenize "a<wait>B")) []
    (∀ relay ∈ relays, relay.after = relay.before ++ relay.line) ∧
      outcome.result = .ok 2 ∧
      outcome.state = Text.bytesOf "sendkey a\nsendkey shift-b\n" := by
  intro launcher outcome relays
  have htokens : tokenize "a<wait>B" = [.literal 'a', .escape "wait", .literal 'B'] := by
    decide +kernel
  have htaken : ∀ relay ∈ relays, relay.after = relay.before ++ relay.line := by
    simp only [relays, htokens]
    decide
  obtain ⟨hresult, -, -, -, -, hreceived⟩ :=
    run_commandSink launcher "cat" 7 (.upTo none) .nothingAccepted "a<wait>B" []
  have hstate := hreceived id htaken
  rw [(run_unlimited 7 (.upTo none) .nothingAccepted "a<wait>B").2, translation, htokens] at hstate
  rw [htokens] at hresult
  exact ⟨htaken, hresult, hstate.trans (by decide)⟩

end MonitorKeys
