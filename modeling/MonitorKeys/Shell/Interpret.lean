import MonitorKeys.Shell.Session
import MonitorKeys.Shell.Tool.Table

/-!
# Running whatever there is to run

Commands run programs, and some of these run commands.  `Interpret.nested` ties both together: tasks
that are nested deeper than a bound end their process, as those do that fill up their stack.
-/

namespace MonitorKeys.Shell.Interpret

/-- The names of shells. -/
def shells : List String :=
  ["bash", "dash"]

/-- Run a task, where tasks within it are run by another interpreter. -/
def step (interp : Interpreter) : Interpreter
  | .command c tested => Execute.perform interp tested false c
  | .child c tested => Execute.whole interp (Execute.perform interp tested true c)
  | .text s tested => Execute.text interp s tested
  | .program name words =>
    match Tool.find? name with
    | some tool => tool interp words
    | none => Session.shell interp words

/-- The interpreter for tasks that are nested at most so deep. -/
def nested : Nat → Interpreter
  | 0 => fun _ => throw (.killed 11)
  | n + 1 => step (nested n)

/-- How deep tasks can be nested. -/
def depth : Nat := 1000

/-- The names of all programs. -/
def programs : List String :=
  shells ++ Tool.all.map (·.1)

end MonitorKeys.Shell.Interpret
