import MonitorKeys.Proofs.KeyName.Sent
import MonitorKeys.Proofs.Sender
import MonitorKeys.Proofs.Sink.Recording
import MonitorKeys.Spelling

/-!
# Key names are typed back as they are

`bracketed` writes every key of an input by the name that is sent for it.  Such an input is read as
these names again and sent as the first one: no name is an alias or a shifted letter a second time,
none asks for a pause, and none ends its own brackets early.

* `tokenize_bracketed` says what the new input is read as, and `bracketed_bracketed` that writing it
  this way once more changes nothing.
* `quiet_sendTokens_map_named` says that a sender treats both alike, on every sink.
-/

namespace MonitorKeys

namespace Token

/-- A token with the name that is sent for it; a closing bracket cannot be named. -/
def named (t : Token) : Token :=
  if t = literal '>' then t else escape t.sentName

@[simp] theorem named_close : (literal '>').named = literal '>' := rfl

theorem named_of_ne {t : Token} (h : t ≠ literal '>') : t.named = escape t.sentName := by
  rw [named, if_neg h]

theorem chars_named (t : Token) : t.named.chars = t.bracketed := by
  by_cases h : t = literal '>'
  · subst h
    rfl
  · rw [named_of_ne h, bracketed, if_neg h, chars_escape]

/-- A named token is sent under the same name. -/
theorem sentName_named (t : Token) : t.named.sentName = t.sentName := by
  by_cases h : t = literal '>'
  · rw [h, named_close]
  · have hname : (escape t.sentName).keyName = t.sentName := ofEscape_sentName t
    rw [named_of_ne h, sentName, hname, withShift_sentName]

theorem named_named (t : Token) : t.named.named = t.named := by
  by_cases h : t = literal '>'
  · rw [h, named_close, named_close]
  · have hescape : t.named ≠ literal '>' := by simp [named_of_ne h]
    rw [named_of_ne hescape, sentName_named, named_of_ne h]

/-- Naming a key neither makes a pause of it nor takes one away. -/
theorem named_eq_wait_iff (t : Token) : t.named = escape "wait" ↔ t = escape "wait" := by
  by_cases h : t = literal '>'
  · rw [h, named_close]
  · rw [named_of_ne h, escape.injEq]
    exact sentName_eq_wait_iff t

theorem wellNamed_named {t : Token} (h : t.WellNamed) : t.named.WellNamed := by
  by_cases hclose : t = literal '>'
  · rw [hclose, named_close]
    trivial
  · rw [named_of_ne hclose]
    exact ⟨sentName_ne_empty h, notMem_sentName h hclose⟩

theorem named_ne_open (t : Token) : t.named ≠ literal '<' := by
  by_cases h : t = literal '>'
  · rw [h, named_close]
    decide
  · simp [named_of_ne h]

/-- No bracket is left open among named tokens. -/
theorem canonical_map_named {tokens : List Token} (h : ∀ t ∈ tokens, t.WellNamed) :
    Canonical (tokens.map named) where
  wellNamed := by
    intro u hu
    obtain ⟨t, ht, rfl⟩ := List.mem_map.1 hu
    exact wellNamed_named (h t ht)
  opensNothing := by
    intro before after hsplit
    have hopen : literal '<' ∈ tokens.map named := by simp [hsplit]
    obtain ⟨t, -, ht⟩ := List.mem_map.1 hopen
    exact absurd ht (named_ne_open t)

end Token

/-- The named keys of an input make up the input in which every key is written by its name. -/
theorem render_map_named (input : String) :
    render ((tokenize input).map Token.named) = bracketed input := by
  rw [render, List.flatMap_map, bracketed]
  congr 2
  funext t
  exact t.chars_named

/-- The named keys of an input are read back as they are. -/
theorem tokenize_bracketed (input : String) :
    tokenize (bracketed input) = (tokenize input).map Token.named := by
  have hcanonical := Token.canonical_map_named (Token.canonical_scan input.toList).wellNamed
  rw [← render_map_named]
  exact tokenize_render hcanonical

/-- An input in which every key is written by its name stays as it is. -/
theorem bracketed_bracketed (input : String) : bracketed (bracketed input) = bracketed input := by
  have hnamed : Token.named ∘ Token.named = Token.named := funext Token.named_named
  rw [← render_map_named, tokenize_bracketed, List.map_map, hnamed, render_map_named]

variable {σ : Type}

namespace Sender

theorem quiet_sendToken_named (sender : Sender σ) (t : Token) (state : σ) :
    (sender.sendToken t.named state).quiet = (sender.sendToken t state).quiet := by
  by_cases h : t = .escape "wait"
  · rw [h, (Token.named_eq_wait_iff _).2 rfl]
  · have hnamed : t.named ≠ .escape "wait" := by
      rwa [ne_eq, Token.named_eq_wait_iff]
    have hcommand : t.named.command = t.command := by
      rw [Token.command, Token.sentName_named, Token.command]
    rw [sender.quiet_sendToken_of_ne hnamed, hcommand, sender.quiet_sendToken_of_ne h]

/-- Log records apart, a sender treats named tokens as it treats the tokens themselves. -/
theorem quiet_sendTokens_map_named (sender : Sender σ) (tokens : List Token) (state : σ) :
    (sender.sendTokens (tokens.map Token.named) state).quiet =
      (sender.sendTokens tokens state).quiet := by
  induction tokens generalizing state with
  | nil => rfl
  | cons t tokens ih =>
    rw [List.map_cons, sendTokens, sendTokens, Outcome.quiet_andThen, Outcome.quiet_andThen,
      quiet_sendToken_named]
    simp only [Outcome.quiet_map, ih]

theorem quiet_run_bracketed (sender : Sender σ) (input : String) (state : σ) :
    (sender.run (bracketed input) state).quiet = (sender.run input state).quiet := by
  rw [run, tokenize_bracketed, quiet_sendTokens_map_named, run]

end Sender

/-- An input in which every key is written by its name is read as these names and does not change
when it is written so again.  On every sink it is sent as the input itself is: the same commands
come to the sink in the same states, the result is the same, and so are all events that are no log
records. -/
theorem run_bracketed (sender : Sender σ) (input : String) (state : σ) :
    let first := sender.run input state
    let second := sender.run (bracketed input) state
    tokenize (bracketed input) = (tokenize input).map Token.named ∧
      bracketed (bracketed input) = bracketed input ∧
      sender.calls (.run (bracketed input)) state = sender.calls (.run input) state ∧
      second.result = first.result ∧
      second.state = first.state ∧
      withoutLog second.events = withoutLog first.events := by
  intro first second
  have hquiet : second.quiet = first.quiet := sender.quiet_run_bracketed input state
  have hrecorded := sender.recording.quiet_run_bracketed input (state, [])
  have hcalls : sender.calls (.run (bracketed input)) state = sender.calls (.run input) state :=
    congrArg (fun o => o.state.2) hrecorded
  have hresult : second.result = first.result := congrArg (fun o => o.result) hquiet
  have hstate : second.state = first.state := congrArg (fun o => o.state) hquiet
  have hevents : withoutLog second.events = withoutLog first.events :=
    congrArg (fun o => o.events) hquiet
  exact ⟨tokenize_bracketed input, bracketed_bracketed input, hcalls, hresult, hstate, hevents⟩

end MonitorKeys
