import MonitorKeys.Sink

/-!
# Shell commands as sinks

A command sink runs a shell command once for every key command, which the child gets as one line on
its standard input.  The key command is never part of the shell text.  Nothing that a child does
makes the sink fail: that it could not be started, did not take its input, ended badly, or could not
be waited for is only logged.

What children do is left open here: a `Launcher` is any state machine that answers a start with the
end of the child, and the state carries what children leave behind in the world.
-/

namespace MonitorKeys

open Text (Bytes)

/-- The life of one child process. -/
inductive Child where
  /-- The child could not be started. -/
  | failed (cause : String)
  /-- The child was started and has ended. -/
  | ended (refusal : Option String) (status : ExitStatus) (output errors : Bytes)
  /-- The child was started, but waiting for its end failed. -/
  | lost (refusal : Option String) (cause : String)
  deriving DecidableEq, Repr

/-- A world in which child processes run. -/
structure Launcher (σ : Type) where
  /-- Start a child with these arguments and offer it these bytes on its standard input. -/
  start : List String → Bytes → σ → Child × σ

/-- The arguments that run a shell command. -/
def shellArguments (text : String) : List String :=
  ["sh", "-c", text]

/-- The events of a child that starts, until its input is closed. -/
def startEvents (filter : Log.Filter) (text : String) (line : Bytes) (refusal : Option String) :
    List Event :=
  [.spawn (shellArguments text), .offer line]
    ++ (match refusal with
      | some cause =>
        filter.log .debug .sender ("'" ++ text ++ "' did not take input: " ++ cause)
      | none => [])
    ++ [.close]

/-- The events of one child, from its start to its end. -/
def Child.events (filter : Log.Filter) (text : String) (line : Bytes) : Child → List Event
  | failed cause =>
    [.spawn (shellArguments text)]
      ++ filter.log .warn .sender ("Failed to run '" ++ text ++ "': " ++ cause)
  | ended refusal status output errors =>
    startEvents filter text line refusal
      ++ [.reap status output errors]
      ++ if status.success then []
        else filter.log .warn .sender ("'" ++ text ++ "' exited with " ++ status.text)
  | lost refusal cause =>
    startEvents filter text line refusal
      ++ filter.log .warn .sender ("Failed to wait for '" ++ text ++ "': " ++ cause)

/-- The sink that runs a shell command for every key command. -/
def commandSink {σ : Type} (launcher : Launcher σ) (filter : Log.Filter) (text : String) :
    Sink σ where
  send command state :=
    let line := lineBytes command
    let (child, state) := launcher.start (shellArguments text) line state
    .done () state (child.events filter text line)

end MonitorKeys
