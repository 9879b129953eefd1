import MonitorKeys.Delay
import MonitorKeys.KeyName
import MonitorKeys.Sink
import MonitorKeys.Text.Quoted

/-!
# Sending a text

A sender translates a text token by token.  Every key is one command to the sink and a pause after
it, and the name `wait` is a pause of one second and no command.  The first command that the sink
does not take ends the run, and no pause follows it.

Each token is logged just before it is sent, so the log shows how far a run came.
-/

namespace MonitorKeys

/-- The text of the log record for a token. -/
def Token.logText : Token → String
  | literal c => "literal " ++ Text.quotedChar c
  | escape name => "escape <" ++ name ++ ">"

/-- What sends texts: a sink, the pause after each key in nanoseconds, and a log filter. -/
structure Sender (σ : Type) where
  sink : Sink σ
  delay : Nat
  filter : Log.Filter

namespace Sender

variable {σ : Type}

/-- Press one key, or wait.  The value says whether a command was sent. -/
def sendkey (sender : Sender σ) (name : String) (state : σ) : Outcome σ Bool :=
  if name = KeyName.wait then
    .done false state
      (sender.filter.log .debug .sender ("wait " ++ durationText waitPause) ++ [.pause waitPause])
  else
    ((sender.sink.send (KeyName.command name) state).andThen fun _ state =>
        .done true state [.pause sender.delay]).after
      (sender.filter.log .debug .sender (KeyName.command name))

/-- Send one token. -/
def sendToken (sender : Sender σ) (t : Token) (state : σ) : Outcome σ Bool :=
  (sender.sendkey t.keyName state).after (sender.filter.log .trace .tokenizer t.logText)

/-- Send tokens in order.  The value is the number of commands sent. -/
def sendTokens (sender : Sender σ) : List Token → σ → Outcome σ Nat
  | [], state => .done 0 state []
  | t :: ts, state =>
    (sender.sendToken t state).andThen fun sent state =>
      (sender.sendTokens ts state).map (· + sent.toNat)

/-- Send a text.  The value is the number of commands sent. -/
def run (sender : Sender σ) (input : String) (state : σ) : Outcome σ Nat :=
  sender.sendTokens (tokenize input) state

/-! ## Histories -/

/-- A request to a sender. -/
inductive Request where
  /-- Send a text. -/
  | run (input : String)
  /-- Press one key, or wait. -/
  | sendkey (name : String)
  /-- Set how many more bytes the sink accepts. -/
  | limit (budget : Option Nat)
  deriving DecidableEq, Repr

/-- The value of a request that succeeds. -/
inductive Reply where
  | count (sent : Nat)
  | pressed (sent : Bool)
  | done
  deriving DecidableEq, Repr

/-- Answer one request. -/
def answer (sender : Sender σ) (request : Request) (state : σ) : Outcome σ Reply :=
  match request with
  | .run input => (sender.run input state).map .count
  | .sendkey name => (sender.sendkey name state).map .pressed
  | .limit budget => .done .done (sender.sink.limit budget state) []

/-- Answer requests one after the other; a failed one does not end the history. -/
def history (sender : Sender σ) : List Request → σ → List (Outcome σ Reply)
  | [], _ => []
  | request :: requests, state =>
    let outcome := sender.answer request state
    outcome :: sender.history requests outcome.state

end Sender

end MonitorKeys
