import MonitorKeys.Host

/-!
# The command line program

Runs `Program.run` on the arguments of the process and carries its effects out in order: bytes go
to the two outputs as they come, and pauses are slept.  Should the standard output fail meanwhile,
the run ends there with the report of that failure.
-/

namespace MonitorKeys.Program

/-- The time of a log line: milliseconds on the system's clock. -/
def timeStamp : IO String := do
  return toString (← IO.monoMsNow)

/-- Put bytes on an output at once. -/
def emit (stream : IO.FS.Stream) (bytes : Text.Bytes) : IO Unit := do
  stream.write bytes.toByteArray
  stream.flush

/-- Carry out one effect. -/
def Effect.perform (effect : Effect) : IO Unit := do
  emit (← IO.getStdout) effect.output
  emit (← IO.getStderr) (effect.errors (← timeStamp))
  match effect with
  | .event (.pause nanoseconds) =>
    IO.sleep (UInt32.ofNat (min (nanoseconds / 10 ^ 6) (2 ^ 32 - 1)))
  | _ => pure ()

/-- Carry out effects in order; `false` when the standard output fails. -/
def performAll : List Effect → IO Bool
  | [] => return true
  | effect :: effects => do
    try
      effect.perform
    catch e =>
      emit (← IO.getStderr) (Text.bytesOf (failureText writing (.reported (toString e))))
      return false
    performAll effects

end MonitorKeys.Program

/-- Run the program on the arguments of the process. -/
def main (arguments : List String) : IO UInt32 := do
  let setting ← IO.getEnv "RUST_LOG"
  let path ← IO.getEnv "PATH"
  let argv := (MonitorKeys.Arguments.defaultName :: arguments).map MonitorKeys.Text.bytesOf
  let bindings := [("PATH", path), ("RUST_LOG", setting)].filterMap fun (name, value) =>
    value.map (name, ·)
  let world : MonitorKeys.Shell.World := { environment := bindings }
  let report :=
    MonitorKeys.Program.run .usual setting ⟨none, none, .nothingAccepted⟩ world argv
  if ← MonitorKeys.Program.performAll report.effects then
    return UInt32.ofNat report.status
  else
    return 1
