import MonitorKeys.Shell.Raw

/-!
# Signals

Signals have a number, a name, and words that say how a process ended by one.  Shell commands take
either the number or the name.
-/

namespace MonitorKeys.Shell.Signal

/-- The signals below those for arbitrary use: name and words, from signal one on. -/
def usual : List (String × String) :=
  [("HUP", "Hangup"), ("INT", "Interrupt"), ("QUIT", "Quit"), ("ILL", "Illegal instruction"),
   ("TRAP", "Trace/breakpoint trap"), ("ABRT", "Aborted"), ("BUS", "Bus error"),
   ("FPE", "Floating point exception"), ("KILL", "Killed"), ("USR1", "User defined signal 1"),
   ("SEGV", "Segmentation fault"), ("USR2", "User defined signal 2"), ("PIPE", "Broken pipe"),
   ("ALRM", "Alarm clock"), ("TERM", "Terminated"), ("16", "Stack fault"), ("CHLD", "Child exited"),
   ("CONT", "Continued"), ("STOP", "Stopped (signal)"), ("TSTP", "Stopped"),
   ("TTIN", "Stopped (tty input)"), ("TTOU", "Stopped (tty output)"),
   ("URG", "Urgent I/O condition"), ("XCPU", "CPU time limit exceeded"),
   ("XFSZ", "File size limit exceeded"), ("VTALRM", "Virtual timer expired"),
   ("PROF", "Profiling timer expired"), ("WINCH", "Window changed"), ("IO", "I/O possible"),
   ("PWR", "Power failure"), ("SYS", "Bad system call"), ("32", "Unknown signal 32"),
   ("33", "Unknown signal 33")]

/-- The greatest signal. -/
def greatest : Nat := 64

/-- The name of a signal; signal zero stands for the end of the shell. -/
def name (n : Nat) : String :=
  if n = 0 then "EXIT"
  else
    match usual[n - 1]? with
    | some (s, _) => s
    | none =>
      if n = 34 then "RTMIN"
      else if n = greatest then "RTMAX"
      else if n ≤ 49 then "RTMIN+" ++ toString (n - 34)
      else "RTMAX-" ++ toString (greatest - n)

/-- The words for the end of a process by a signal. -/
def words (n : Nat) : String :=
  match usual[n - 1]? with
  | some (_, s) => s
  | none => "Real-time signal " ++ toString (n - 34)

/-- The signal that a number or a name stands for; names count in any case, from signal `least`
on. -/
def read? (least : Nat) (s : String) : Option Nat :=
  match Raw.nat? s with
  | some n => if n ≤ greatest then some n else none
  | none =>
    let upper := s.map Char.toUpper
    ((List.range (greatest + 1)).drop least).find? fun n => name n == upper

end MonitorKeys.Shell.Signal
