import MonitorKeys.Event
import MonitorKeys.SystemError

/-!
# Sinks

A sink takes key commands one at a time.  It is a state machine: each command either is accepted
or fails, which may depend on everything that was sent before, and leaves the next state and the
events that happened meanwhile.

`Outcome` is the result of such a step, and `Outcome.andThen` goes on with a second step when the
first one succeeded.
-/

namespace MonitorKeys

/-- Why an output did not take a command. -/
inductive OutputFailure where
  /-- The operating system reports an error by its number. -/
  | system (code : Int)
  /-- The output reports an error in its own words. -/
  | reported (message : String)
  /-- The output takes no bytes and reports no error. -/
  | nothingAccepted
  deriving DecidableEq, Repr

namespace OutputFailure

/-- What the failure says about itself. -/
def cause : OutputFailure → String
  | system code => SystemError.numbered code
  | reported message => message
  | nothingAccepted => "failed to write whole buffer"

/-- The text of the error. -/
def message (failure : OutputFailure) : String :=
  "failed to write key command: " ++ failure.cause

end OutputFailure

/-- What a step on a sink leaves behind: its result, the next state, and what happened. -/
structure Outcome (σ α : Type) where
  result : Except OutputFailure α
  state : σ
  events : List Event

namespace Outcome

variable {σ α β : Type}

/-- A step that succeeds and leaves the state as it is. -/
def done (a : α) (state : σ) (events : List Event) : Outcome σ α :=
  ⟨.ok a, state, events⟩

/-- A step with events before it. -/
def after (events : List Event) (o : Outcome σ α) : Outcome σ α :=
  { o with events := events ++ o.events }

/-- Go on after success, from the state of the first step; a failure ends both. -/
def andThen (o : Outcome σ α) (next : α → σ → Outcome σ β) : Outcome σ β :=
  match o.result with
  | .ok a => (next a o.state).after o.events
  | .error e => ⟨.error e, o.state, o.events⟩

/-- Change the value of a step that succeeds. -/
def map (f : α → β) (o : Outcome σ α) : Outcome σ β :=
  { o with result := o.result.map f }

end Outcome

/-- A destination for key commands. -/
structure Sink (σ : Type) where
  /-- Deliver one command, given as a line without its end. -/
  send : String → σ → Outcome σ Unit
  /-- Set how many more bytes are accepted, or lift the limit; most sinks have none. -/
  limit : Option Nat → σ → σ := fun _ state => state

/-- The bytes of a command as a whole line. -/
def lineBytes (command : String) : Text.Bytes :=
  Text.bytesOf command ++ Text.bytesOf "\n"

end MonitorKeys
