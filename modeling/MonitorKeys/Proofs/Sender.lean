import MonitorKeys.Proofs.KeyName
import MonitorKeys.Proofs.Outcome
import MonitorKeys.Sender

/-!
# Sending tokens through any sink

What a sender does without regard to what the sink does with the commands.

* `sendTokens_append` cuts a run in two at any place.
* `quiet_sendToken_wait` and `quiet_sendToken_of_ne` are what one token does, log records apart: a
  wait pauses a second, and any other token sends its command and then pauses.
* `sent_of_sendTokens_ok` counts the commands of a run that succeeds.
-/

namespace MonitorKeys

/-- The command for a token. -/
def Token.command (t : Token) : String :=
  "sendkey " ++ t.sentName

/-- How many of the tokens press a key. -/
def commandCount (tokens : List Token) : Nat :=
  tokens.countP fun t => t ≠ .escape "wait"

@[simp] theorem commandCount_nil : commandCount [] = 0 := rfl

theorem commandCount_append (a b : List Token) :
    commandCount (a ++ b) = commandCount a + commandCount b :=
  List.countP_append

theorem commandCount_wait : commandCount [.escape "wait"] = 0 := by
  simp [commandCount]

theorem commandCount_of_ne {t : Token} (h : t ≠ .escape "wait") : commandCount [t] = 1 := by
  simp [commandCount, h]

theorem commandCount_cons (t : Token) (tokens : List Token) :
    commandCount (t :: tokens) = commandCount tokens + (decide (t ≠ .escape "wait")).toNat := by
  by_cases h : t = .escape "wait" <;> simp [commandCount, h]

/-- The length of the pause for a token, given the delay after keys. -/
def Token.pause (delay : Nat) (t : Token) : Nat :=
  if t = .escape "wait" then waitPause else delay

@[simp] theorem pause_wait (delay : Nat) : (Token.escape "wait").pause delay = waitPause := by
  rw [Token.pause, if_pos rfl]

theorem pause_of_ne {t : Token} (h : t ≠ .escape "wait") (delay : Nat) : t.pause delay = delay := by
  rw [Token.pause, if_neg h]

namespace Sender

variable {σ : Type} (sender : Sender σ)

/-- Tokens in two pieces are sent one piece after the other, and the counts add up. -/
theorem sendTokens_append (a b : List Token) (state : σ) :
    sender.sendTokens (a ++ b) state =
      (sender.sendTokens a state).andThen fun sent state =>
        (sender.sendTokens b state).map (· + sent) := by
  induction a generalizing state with
  | nil => simp [sendTokens]
  | cons t a ih =>
    simp only [List.cons_append, sendTokens, ih, Outcome.andThen_assoc, Outcome.andThen_map,
      Outcome.map_andThen, Outcome.map_map, Nat.add_assoc]

/-- A wait pauses for a second and sends nothing. -/
theorem quiet_sendToken_wait (state : σ) :
    (sender.sendToken (.escape "wait") state).quiet = .done false state [.pause waitPause] := by
  have hname : (Token.escape "wait").keyName = KeyName.wait := by
    rw [Token.keyName_eq_wait_iff]
  simp [sendToken, sendkey, hname]

/-- Any other token sends its command, and a pause follows when the sink takes it. -/
theorem quiet_sendToken_of_ne {t : Token} (h : t ≠ .escape "wait") (state : σ) :
    (sender.sendToken t state).quiet =
      (sender.sink.send t.command state).quiet.andThen fun _ state =>
        .done true state [.pause sender.delay] := by
  have hname : t.keyName ≠ KeyName.wait := by
    rwa [ne_eq, Token.keyName_eq_wait_iff]
  have hcommand : KeyName.command t.keyName = t.command := rfl
  simp [sendToken, sendkey, hname, hcommand]

/-- A token that was sent is counted unless it is a wait. -/
theorem sent_of_sendToken_ok {t : Token} {state : σ} {sent : Bool}
    (h : (sender.sendToken t state).result = .ok sent) : sent = decide (t ≠ .escape "wait") := by
  rw [← Outcome.result_quiet] at h
  by_cases hwait : t = .escape "wait"
  · subst hwait
    rw [quiet_sendToken_wait] at h
    cases h
    simp
  · rw [quiet_sendToken_of_ne sender hwait] at h
    rw [decide_eq_true hwait]
    generalize (sender.sink.send t.command state).quiet = o at h
    obtain ⟨result, state, events⟩ := o
    cases result with
    | error failure => cases h
    | ok a =>
      cases h
      rfl

/-- A run that succeeds has sent one command for each token that presses a key. -/
theorem sent_of_sendTokens_ok {tokens : List Token} {state : σ} {sent : Nat}
    (h : (sender.sendTokens tokens state).result = .ok sent) : sent = commandCount tokens := by
  induction tokens generalizing state sent with
  | nil =>
    cases h
    rfl
  | cons t tokens ih =>
    rw [sendTokens] at h
    cases htoken : (sender.sendToken t state).result with
    | error failure =>
      rw [Outcome.andThen_of_error htoken] at h
      cases h
    | ok pressed =>
      rw [Outcome.andThen_of_ok htoken, Outcome.result_after, Outcome.map] at h
      cases hrest : (sender.sendTokens tokens (sender.sendToken t state).state).result with
      | error failure =>
        rw [hrest] at h
        cases h
      | ok others =>
        rw [hrest] at h
        cases h
        rw [commandCount_cons, ← ih hrest, sender.sent_of_sendToken_ok htoken]

end Sender

/-! ## What a sink keeps -/

/-- A property of the states of a sink that nothing takes away. -/
structure Sink.Keeps {σ : Type} (sink : Sink σ) (P : σ → Prop) : Prop where
  send : ∀ command state, P state → P (sink.send command state).state
  limit : ∀ budget state, P state → P (sink.limit budget state)

namespace Sender

section Keeps

variable {σ : Type} {sink : Sink σ} {P : σ → Prop} (h : sink.Keeps P) (delay : Nat)
  (filter : Log.Filter)

include h

theorem keeps_sendkey (name : String) {state : σ} (hstate : P state) :
    P ((Sender.mk sink delay filter).sendkey name state).state := by
  rw [sendkey]
  split
  · exact hstate
  · exact Outcome.andThen_keeps (h.send _ state hstate) fun _ => h.send _ state hstate

theorem keeps_sendTokens (tokens : List Token) {state : σ} (hstate : P state) :
    P ((Sender.mk sink delay filter).sendTokens tokens state).state := by
  induction tokens generalizing state with
  | nil => exact hstate
  | cons t tokens ih =>
    have htoken : P ((Sender.mk sink delay filter).sendToken t state).state :=
      keeps_sendkey h delay filter t.keyName hstate
    rw [sendTokens]
    exact Outcome.andThen_keeps htoken fun _ => ih htoken

theorem keeps_answer (request : Request) {state : σ} (hstate : P state) :
    P ((Sender.mk sink delay filter).answer request state).state := by
  cases request with
  | run input => exact keeps_sendTokens h delay filter (tokenize input) hstate
  | sendkey name => exact keeps_sendkey h delay filter name hstate
  | limit budget => exact h.limit budget state hstate

/-- What the sink keeps holds after every request of a history. -/
theorem keeps_history (requests : List Request) {state : σ} (hstate : P state) :
    ∀ outcome ∈ (Sender.mk sink delay filter).history requests state, P outcome.state := by
  induction requests generalizing state with
  | nil => simp [history]
  | cons request requests ih =>
    have hanswer := keeps_answer h delay filter request hstate
    rw [history, List.forall_mem_cons]
    exact ⟨hanswer, ih hanswer⟩

end Keeps

end Sender

end MonitorKeys
