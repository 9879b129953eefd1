import MonitorKeys.Shell.Builtin.Options
import MonitorKeys.Shell.Signal

/-!
# Builtins for processes and signals

`kill` sends signals, `trap` says what is done when one comes, `wait` waits for commands that were
started before, and `jobs` lists these.

A command that begins by sleeping is not run before something waits for it, so that it can be ended
by a signal; every other command has ended by then.
-/

namespace MonitorKeys.Shell.Builtin

/-! ## Commands that are not waited for -/

/-- The job that a text such as `%1` names. -/
def jobOf (text : String) : Run Job := do
  let jobs := (← Run.process).jobs
  match (text.drop 1).toString with
  | "" | "%" | "+" =>
    match jobs.getLast? with
    | some job => return job
    | none => Run.fail "No current job"
  | name =>
    match (Raw.nat? name).bind fun n => if n = 0 then none else jobs[n - 1]? with
    | some job => return job
    | none => Run.fail ("No such job: " ++ text)

/-- Note how a job has ended. -/
def endJob (process : Nat) (ended : ExitStatus) : Run Unit :=
  Run.onProcess fun p =>
    { p with
      jobs := p.jobs.map fun job =>
        if job.process == process then { job with ended := some ended } else job }

/-- Run a job that sleeps, and give back how it has ended. -/
def finish (interp : Interpreter) (job : Job) : Run ExitStatus := do
  match job.ended with
  | some ended => return ended
  | none =>
    let ended ← Run.spawn (interp (.child job.body false))
    endJob job.process ended
    return ended

/-- Say how a command was ended by a signal, unless that is one of those that often do. -/
def reportSignal : ExitStatus → Run Unit
  | .signal n => unless n == 2 || n == 13 do Run.warn (Signal.words n ++ "\n")
  | .code _ => return

/-- `wait`. -/
def wait (interp : Interpreter) : Builtin := fun arguments => do
  let (_, words) ← options "" arguments
  if words.isEmpty then
    for job in (← Run.process).jobs do
      let _ ← finish interp job
    Run.onProcess fun p => { p with jobs := [] }
  for word in words do
    let found ←
      if word.startsWith "%" then pure (some (← jobOf word))
      else do
        let n ← number word
        pure ((← Run.process).jobs.find? (·.process == n))
    match found with
    | none => Run.setStatus 127
    | some job =>
      let ended ← finish interp job
      unless job.reported do reportSignal ended
      Run.onProcess fun p =>
        { p with
          jobs := p.jobs.map fun j =>
            if j.process == job.process then { j with reported := true } else j }
      Run.setStatus (statusOf ended)
  return ""

/-- `jobs`. -/
def jobs : Builtin := fun arguments => do
  let (found, _) ← options "lp" arguments
  let all := (← Run.process).jobs
  let count := all.length
  let lines := all.zipIdx.map fun (job, i) =>
    if found.any (·.1 == 'p') then toString job.process ++ "\n"
    else
      let state :=
        match job.ended with
        | none => "Running"
        | some (.code 0) => "Done"
        | some (.code n) => "Done(" ++ toString n ++ ")"
        | some (.signal n) => Signal.words n
      let sign := if i + 1 == count then "+" else if i + 2 == count then "-" else " "
      "[" ++ toString (i + 1) ++ "] " ++ sign ++ " " ++ Raw.padRight 27 ' ' state ++ "\n"
  Run.onProcess fun p => { p with jobs := p.jobs.filter (·.ended.isNone) }
  return String.join lines.reverse

/-- `fg` and `bg`, for which there must be a job. -/
def resume : Builtin := fun arguments => do
  let _ ← jobOf (arguments.head?.getD "%%")
  Run.fail "job not created under job control"

/-! ## Signals -/

/-- Send a signal to a process; `false` where there is no such process. -/
def send (signal process : Nat) : Run Bool := do
  let p ← Run.process
  if process == p.number || process == 0 then
    Run.receive signal
    return true
  else if p.waiting.contains process then
    Run.onSystem fun y => { y with signals := y.signals ++ [(process, signal)] }
    return true
  else
    match p.jobs.find? (·.process == process) with
    | some job =>
      if job.ended.isNone && !Run.isHarmless signal then endJob process (.signal signal)
      return !job.reported
    | none => return false

/-- The names of all signals. -/
def signalList : String :=
  Raw.unlines ("0" :: (List.range Signal.greatest).map fun n => Signal.name (n + 1))

/-- What `kill -l` prints for a number. -/
def signalOf (word : String) : Run String := do
  let n ← number word
  let signal := if 128 < n then n - 128 else n
  if 0 < signal && signal ≤ Signal.greatest then return Signal.name signal ++ "\n"
  Run.fail ("invalid signal number or exit status: " ++ word)

/-- How `kill` is used. -/
def killUsage : String :=
  "Usage: kill [-s sigspec | -signum | -sigspec] [pid | job]... or\nkill -l [exitstatus]"

/-- The options of `kill`: the signal, whether names are asked for, and the words left. -/
def killOptions (arguments : List String) : Run (Option Nat × Bool × List String) := do
  match arguments with
  | [] => Run.fail killUsage
  | first :: rest =>
    if !first.startsWith "-" then return (none, false, arguments)
    match Signal.read? 1 (first.drop 1).toString with
    | some n => return (some n, false, rest)
    | none =>
      let (found, words) ← options "l" arguments "s"
      let mut signal := none
      for (c, value) in found do
        if c == 's' then
          match Signal.read? 1 value with
          | some n => signal := some n
          | none => Run.fail ("invalid signal number or name: " ++ value)
      return (signal, found.any (·.1 == 'l'), words)

/-- `kill`. -/
def kill : Builtin := fun arguments => do
  let (signal, list, words) ← killOptions arguments
  if list && signal.isSome || !list && words.isEmpty then Run.fail killUsage
  if list then
    match words.head? with
    | none => return signalList
    | some word => signalOf word
  else
    for word in words do
      let found ←
        if word.startsWith "%" then send (signal.getD 15) (← jobOf word).process
        else if word.startsWith "-" then
          -- No group has the number of one of the processes.
          let group ← number (word.drop 1).toString
          if group == 0 then send (signal.getD 15) 0 else pure false
        else send (signal.getD 15) (← number word)
      unless found do
        Run.complain "No such process\n"
        Run.setStatus 1
    return ""

/-! ## Traps -/

/-- The commands that are run on signals. -/
def trapList : Run String := do
  let traps := (← Run.process).traps.mergeSort fun a b => a.1 ≤ b.1
  return String.join (traps.map fun (n, text) =>
    "trap -- " ++ quoted text ++ " " ++ Signal.name n ++ "\n")

/-- `trap`. -/
def trap : Builtin := fun arguments => do
  let (_, words) ← options "" arguments
  match words with
  | [] => trapList
  | first :: rest =>
    let (action, names) :=
      if rest.isEmpty || (Raw.nat? first).isSome then (none, words)
      else (if first == "-" then none else some first, rest)
    for name in names do
      match Signal.read? 0 name with
      | none =>
        Run.warn ("trap: " ++ name ++ ": bad trap\n")
        Run.setStatus 1
        return ""
      | some n =>
        Run.onProcess fun p =>
          let others := p.traps.filter (·.1 != n)
          { p with traps := action.elim others fun text => (n, text) :: others }
    return ""

/-- `times`. -/
def times : Builtin := fun _ =>
  return "0m0.000000s 0m0.000000s\n0m0.000000s 0m0.000000s\n"

end MonitorKeys.Shell.Builtin
