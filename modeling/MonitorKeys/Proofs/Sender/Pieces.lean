import MonitorKeys.Proofs.Sender
import MonitorKeys.Proofs.Sink.Recording
import MonitorKeys.Proofs.Token.Concatenation
import MonitorKeys.Sink.Stream

/-!
# A text that is sent in pieces

Where a text may be cut in two, sending it is sending the first piece and then the second one, on
every sink.  The second piece begins in the state that the first one left behind, and a first piece
that fails is the end of the whole.

* `run_eq_andThen` joins two runs, and `calls_of_ok` and `calls_of_error` join their commands.
* `run_append` puts this together for both ways in which the first piece can end.
-/

namespace MonitorKeys

variable {σ : Type}

namespace Sender

variable (sender : Sender σ) {a b : String}

/-- Two pieces of a text are sent one after the other, and the counts add up. -/
theorem run_eq_andThen (h : Separable a b) (state : σ) :
    sender.run (a ++ b) state =
      (sender.run a state).andThen fun sent state => (sender.run b state).map (· + sent) := by
  have htokens : tokenize (a ++ b) = tokenize a ++ tokenize b := by
    rw [tokenize, String.toList_append]
    exact (scan_append_iff_separable a b).2 h
  rw [run, htokens, sendTokens_append]
  rfl

/-- After a first piece that was sent the commands of the second one come to the sink. -/
theorem calls_of_ok (h : Separable a b) {state : σ} {sent : Nat}
    (hfirst : (sender.run a state).result = .ok sent) :
    sender.calls (.run (a ++ b)) state =
      sender.calls (.run a) state ++ sender.calls (.run b) (sender.run a state).state := by
  have hrecording : (sender.recording.run a (state, [])).result = .ok sent :=
    (congrArg Outcome.result (sender.forget_run_recording a (state, []))).trans hfirst
  have hwhole : sender.recording.run (a ++ b) (state, []) = _ :=
    (sender.recording.run_eq_andThen h (state, [])).trans (Outcome.andThen_of_ok hrecording _)
  rw [state_run_recording, List.nil_append] at hwhole
  have hstate := congrArg (fun o => o.state.2) hwhole
  calc sender.calls (.run (a ++ b)) state
      = (sender.recording.run b
          ((sender.run a state).state, sender.calls (.run a) state)).state.2 := hstate
    _ = _ := by rw [state_run_recording]

/-- After a first piece that failed no further command comes to the sink. -/
theorem calls_of_error (h : Separable a b) {state : σ} {failure : OutputFailure}
    (hfirst : (sender.run a state).result = .error failure) :
    sender.calls (.run (a ++ b)) state = sender.calls (.run a) state := by
  have hrecording : (sender.recording.run a (state, [])).result = .error failure :=
    (congrArg Outcome.result (sender.forget_run_recording a (state, []))).trans hfirst
  have hwhole : sender.recording.run (a ++ b) (state, []) = _ :=
    (sender.recording.run_eq_andThen h (state, [])).trans (Outcome.andThen_of_error hrecording _)
  exact congrArg (fun o => o.state.2) hwhole

end Sender

/-- A text that may be cut in two is sent as its pieces are.  When the first piece was sent the
second one follows in the state that it left: the sink ends in the same state, the same commands
come to it and the same events happen, and the counts are added.  When the first piece fails the
whole fails in the same way at the same place, and nothing of the second piece is sent. -/
theorem run_append (sender : Sender σ) {a b : String} (h : Separable a b) (state : σ) :
    let first := sender.run a state
    let second := sender.run b first.state
    let whole := sender.run (a ++ b) state
    (∀ sent, first.result = .ok sent →
        whole.result = second.result.map (sent + ·) ∧
          whole.state = second.state ∧
          whole.events = first.events ++ second.events ∧
          sender.calls (.run (a ++ b)) state =
            sender.calls (.run a) state ++ sender.calls (.run b) first.state) ∧
      ∀ failure, first.result = .error failure →
        whole.result = .error failure ∧
          whole.state = first.state ∧
          whole.events = first.events ∧
          sender.calls (.run (a ++ b)) state = sender.calls (.run a) state := by
  intro first second whole
  have hwhole : whole = _ := sender.run_eq_andThen h state
  constructor
  · intro sent hfirst
    rw [Outcome.andThen_of_ok hfirst] at hwhole
    have hresult : whole.result = second.result.map (sent + ·) := by
      simp only [hwhole, Nat.add_comm sent]
      rfl
    rw [sender.calls_of_ok h hfirst, hresult, hwhole]
    exact ⟨rfl, rfl, rfl, rfl⟩
  · intro failure hfirst
    rw [Outcome.andThen_of_error hfirst] at hwhole
    rw [sender.calls_of_error h hfirst, hwhole]
    exact ⟨rfl, rfl, rfl, rfl⟩

/-- A bracket that the second piece closes at once is typed in both ways, and the budget ends in the
second piece. -/
theorem run_append_hollow_brackets :
    let sender : Sender Stream := ⟨streamSink, 7, .upTo none⟩
    let stream : Stream := { budget := some 35, failure := .system 28 }
    Separable "a<" ">b" ∧
      (sender.run "a<" stream).result = .ok 2 ∧
      (sender.run "a<>b" stream).result = .error (.system 28) ∧
      (sender.run "a<>b" stream).events =
        (sender.run "a<" stream).events ++
          [.write (lineBytes "sendkey >"), .flush, .pause 7, .write (Text.bytesOf "sendk")] := by
  intro sender stream
  have hseparable : Separable "a<" ">b" := by decide +kernel
  have hfirst : (sender.run "a<" stream).result = .ok 2 := by decide +kernel
  obtain ⟨hresult, -, hevents, -⟩ := (run_append sender hseparable stream).1 2 hfirst
  refine ⟨hseparable, hfirst, hresult.trans (by decide +kernel), hevents.trans ?_⟩
  rw [List.append_cancel_left_eq]
  decide +kernel

end MonitorKeys
