import MonitorKeys.Arguments
import MonitorKeys.Sender
import MonitorKeys.Sink.Command
import MonitorKeys.Sink.Stream

/-!
# The program

One run of the program reads its command line, sends the input text to its standard output or to
shell commands, and ends with a status: 0 after success and after help or version, 1 when the
output fails, and 2 when the command line is not accepted.

`Program.run` gives the whole of it as a `Report`, for any setting of the log, any behaviour of the
output and any behaviour of children.  Nothing is sent before the command line has been accepted
as a whole.

What a run leaves to others is its `Host`: how log settings and command lines are read, and what
children do.  The program only says which setting is used where none is given, and what it does with
the invocation that has been read.
-/

namespace MonitorKeys

open Text (Bytes)

/-- What the program is run on. -/
structure Host (σ : Type) where
  /-- The filter that a log setting describes, and warnings about what is wrong with the setting. -/
  logging : String → Log.Filter × List String
  /-- How command lines are read, for a program called by this path. -/
  reader : Option Bytes → Arguments.Reader
  /-- What children do. -/
  launcher : Launcher σ

/-- Read a command line that begins with the path of the program. -/
def Host.parse {σ : Type} (host : Host σ) (argv : List Bytes) :
    Except Arguments.Stop Invocation :=
  (host.reader argv.head?).parse argv.tail

namespace Program

/-- The log setting where none is given. -/
def usualSetting : String := "warn"

/-- What a run does to the world around it. -/
inductive Effect where
  /-- Something that happens while a text is sent. -/
  | event (e : Event)
  /-- A message on the error output. -/
  | complaint (text : String)
  deriving DecidableEq, Repr

/-- The whole of a run. -/
structure Report where
  status : Nat
  effects : List Effect
  deriving DecidableEq, Repr

/-- The bytes that an effect puts on the standard output. -/
def Effect.output : Effect → Bytes
  | event (.write bytes) => bytes
  | event (.reap _ output _) => output
  | _ => []

/-- The bytes that an effect puts on the error output, where log lines carry the given time. -/
def Effect.errors (time : String) : Effect → Bytes
  | event (.log record) => Text.bytesOf (record.lines time)
  | event (.reap _ _ errors) => errors
  | complaint text => Text.bytesOf text
  | _ => []

/-- What a run leaves on the standard output. -/
def Report.output (report : Report) : Bytes :=
  report.effects.flatMap Effect.output

/-- What a run leaves on the error output. -/
def Report.errors (time : String) (report : Report) : Bytes :=
  report.effects.flatMap (Effect.errors time)

/-! ## Texts -/

/-- The log record at the start of a run. -/
def startText (invocation : Invocation) : String :=
  let command :=
    match invocation.command with
    | some text => "Some(" ++ Text.quoted text ++ ")"
    | none => "None"
  "sendkeys: delay=" ++ durationText invocation.delayNanoseconds ++ " command=" ++ command
    ++ " input=" ++ Text.quoted invocation.inputText

/-- The log record at the end of a run that succeeds. -/
def endText (sent : Nat) : String :=
  "sendkeys: " ++ toString sent ++ " key commands sent"

/-- What a run does on its standard output, as messages say it. -/
def writing : String := "write key commands"

/-- What a run does with shell commands, as messages say it. -/
def piping : String := "pipe key commands"

/-- The message about a task that fails. -/
def failureText (task : String) (failure : OutputFailure) : String :=
  "Error: Failed to " ++ task ++ "\n\nCaused by:\n    0: " ++ failure.message
    ++ "\n    1: " ++ failure.cause ++ "\n"

/-! ## Runs -/

/-- The end of a run that has sent its text, or has failed to. -/
def finish {σ : Type} (filter : Log.Filter) (task : String) (outcome : Outcome σ Nat) : Report :=
  let before := outcome.events.map Effect.event
  match outcome.result with
  | .ok sent =>
    ⟨0, before ++ (filter.log .info .program (endText sent)).map Effect.event⟩
  | .error failure => ⟨1, before ++ [.complaint (failureText task failure)]⟩

/-- Send the text of an accepted command line, to shell commands where one is given. -/
def send {σ : Type} (filter : Log.Filter) (stdout : Stream) (launcher : Launcher σ)
    (invocation : Invocation) (world : σ) : Report :=
  let delay := invocation.delayNanoseconds
  match invocation.command with
  | some text =>
    let sender : Sender σ := ⟨commandSink launcher filter text, delay, filter⟩
    finish filter piping (sender.run invocation.inputText world)
  | none =>
    let sender : Sender Stream := ⟨streamSink, delay, filter⟩
    finish filter writing (sender.run invocation.inputText stdout)

/-- The report of a run that stops at its command line.  A text that was asked for goes to the
standard output, as far as it accepts it. -/
def stopped (stdout : Stream) (stop : Arguments.Stop) : Report :=
  match stop with
  | .refused message => ⟨stop.status, [.complaint message]⟩
  | .answered text =>
    ⟨stop.status, (Stream.writeEvents (stdout.accepted (Text.bytesOf text))).map Effect.event⟩

/-- A report with effects before its own. -/
def Report.after (effects : List Effect) (report : Report) : Report :=
  { report with effects := effects ++ report.effects }

/-- Run the program with a log setting, a standard output, a world for children, and a command
line that begins with the path of the program. -/
def run {σ : Type} (host : Host σ) (setting : Option String) (stdout : Stream) (world : σ)
    (argv : List Bytes) : Report :=
  let (filter, warnings) := host.logging (setting.getD usualSetting)
  let report :=
    match host.parse argv with
    | .error stop => stopped stdout stop
    | .ok invocation =>
      (send filter stdout host.launcher invocation world).after
        ((filter.log .info .program (startText invocation)).map Effect.event)
  report.after (warnings.map Effect.complaint)

end Program

end MonitorKeys
