import MonitorKeys.Sink

/-!
# Streams as sinks

A stream takes each command as one line and is flushed after it, so that a reader at the other end
sees every command at once.  A stream may accept only so many more bytes, and only so many more
flushes.  A line that does not fit is cut where the budget ends, and what was accepted stays
written.
-/

namespace MonitorKeys

open Text (Bytes)

/-- An output with what it will still accept; `none` stands for no limit. -/
structure Stream where
  /-- How many more bytes are accepted. -/
  budget : Option Nat := none
  /-- How many more flushes succeed. -/
  flushes : Option Nat := none
  /-- How the stream fails beyond its limits. -/
  failure : OutputFailure := .reported "broken pipe"
  deriving DecidableEq, Repr

namespace Stream

/-- The part of some bytes that a stream accepts. -/
def accepted (stream : Stream) (bytes : Bytes) : Bytes :=
  match stream.budget with
  | none => bytes
  | some n => bytes.take n

/-- The stream after it was offered some bytes. -/
def charge (stream : Stream) (bytes : Bytes) : Stream :=
  { stream with budget := stream.budget.map (· - bytes.length) }

/-- The events of writing bytes; no bytes are no event. -/
def writeEvents (bytes : Bytes) : List Event :=
  if bytes = [] then [] else [.write bytes]

/-- Flush the stream. -/
def flush (stream : Stream) : Outcome Stream Unit :=
  match stream.flushes with
  | none => .done () stream [.flush]
  | some 0 => ⟨.error stream.failure, stream, []⟩
  | some (n + 1) => .done () { stream with flushes := some n } [.flush]

/-- Write bytes, as far as they are accepted. -/
def write (stream : Stream) (bytes : Bytes) : Outcome Stream Unit :=
  let taken := stream.accepted bytes
  ⟨if taken.length < bytes.length then .error stream.failure else .ok (),
    stream.charge bytes, writeEvents taken⟩

/-- Write a command as a line, then flush. -/
def send (command : String) (stream : Stream) : Outcome Stream Unit :=
  (stream.write (lineBytes command)).andThen fun _ stream => stream.flush

end Stream

/-- The sink that writes to a stream. -/
def streamSink : Sink Stream where
  send := Stream.send
  limit budget stream := { stream with budget }

end MonitorKeys
