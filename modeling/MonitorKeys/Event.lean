import MonitorKeys.Log
import MonitorKeys.Text.Utf8

/-!
# Events

Everything that sending a text does is recorded as a list of events in the order in which they
happen: log records, bytes that an output accepts, flushes, pauses, and the steps of running a
child process.  Two runs behave alike when their events do.
-/

namespace MonitorKeys

open Text (Bytes)

/-- How a child process ended. -/
inductive ExitStatus where
  | code (n : Nat)
  | signal (n : Nat)
  deriving DecidableEq, Repr

namespace ExitStatus

/-- Whether a child process reports success. -/
def success : ExitStatus → Bool
  | code n => n == 0
  | signal _ => false

/-- The names of the signals that end a process. -/
def signalNames : List (Nat × String) :=
  [(1, "SIGHUP"), (2, "SIGINT"), (3, "SIGQUIT"), (4, "SIGILL"), (5, "SIGTRAP"), (6, "SIGABRT"),
   (7, "SIGBUS"), (8, "SIGFPE"), (9, "SIGKILL"), (10, "SIGUSR1"), (11, "SIGSEGV"),
   (12, "SIGUSR2"), (13, "SIGPIPE"), (14, "SIGALRM"), (15, "SIGTERM"), (16, "SIGSTKFLT"),
   (24, "SIGXCPU"), (25, "SIGXFSZ"), (26, "SIGVTALRM"), (27, "SIGPROF"), (29, "SIGIO"),
   (30, "SIGPWR"), (31, "SIGSYS")]

/-- The status in the words of a log record. -/
def text : ExitStatus → String
  | code n => "exit status: " ++ toString n
  | signal n =>
    "signal: " ++ toString n
      ++ ((signalNames.lookup n).map fun name => " (" ++ name ++ ")").getD ""

end ExitStatus

/-- One thing that happens while a text is sent. -/
inductive Event where
  /-- A record goes to the log. -/
  | log (record : Log.Record)
  /-- The output accepts these bytes. -/
  | write (bytes : Bytes)
  /-- The output is flushed. -/
  | flush
  /-- A child process with these arguments is to be started. -/
  | spawn (arguments : List String)
  /-- These bytes are offered to the child on its standard input. -/
  | offer (bytes : Bytes)
  /-- The standard input of the child is closed. -/
  | close
  /-- The child has ended, having printed `output` and `errors`. -/
  | reap (status : ExitStatus) (output errors : Bytes)
  /-- Nothing is sent for this many nanoseconds. -/
  | pause (nanoseconds : Nat)
  deriving DecidableEq, Repr

namespace Event

/-- Whether an event is a log record. -/
def isLog : Event → Bool
  | log _ => true
  | _ => false

/-- The bytes that an event writes to the output. -/
def written : Event → Bytes
  | write bytes => bytes
  | _ => []

/-- The arguments of the child process that an event starts. -/
def spawn? : Event → Option (List String)
  | spawn arguments => some arguments
  | _ => none

/-- The length of the pause that an event is. -/
def pause? : Event → Option Nat
  | pause nanoseconds => some nanoseconds
  | _ => none

end Event

/-- The events of logging a record: the record itself where the filter admits it. -/
def Log.Filter.log (filter : Log.Filter) (level : Log.Level) (target : Log.Target)
    (text : String) : List Event :=
  let record : Log.Record := ⟨level, target, text⟩
  if filter.admits record then [.log record] else []

end MonitorKeys
