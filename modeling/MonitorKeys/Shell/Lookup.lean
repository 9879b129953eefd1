import MonitorKeys.Shell.Grammar
import MonitorKeys.Shell.Machine

/-!
# What a command name means

A name in front of a command is that of a function, of a builtin, or of a program that is found on
the search path.  The builtins `type`, `command` and `hash` say which it is.
-/

namespace MonitorKeys.Shell

/-- What a name means at the start of a command. -/
inductive Meaning where
  | function (body : Command)
  | builtin
  | program (path : String)
  /-- Nothing; `denied` says that there is a file of that name that is no program. -/
  | nothing (denied : Bool)
  deriving Inhabited

/-- The builtins whose failure does not end the shell. -/
def regularBuiltins : List String :=
  ["[", "alias", "bg", "cd", "chdir", "command", "echo", "false", "fg", "getopts", "hash", "jobs",
   "kill", "printf", "pwd", "read", "test", "true", "type", "ulimit", "umask", "unalias", "wait"]

/-- Whether a name is that of a builtin. -/
def isBuiltin (name : String) : Bool :=
  specialBuiltins.contains name || regularBuiltins.contains name

namespace Lookup

/-- The search path where there is no variable for it. -/
def usualPath : String :=
  "/usr/local/sbin:/usr/local/bin:/usr/sbin:/usr/bin:/sbin:/bin"

/-- The path of a file in a directory of the search path; an empty directory is the current one. -/
def joined (directory name : String) : String :=
  if directory.isEmpty then name else directory ++ "/" ++ name

/-- The first program of a name in some directories, or else whether one of them has another file of
that name. -/
def inDirectories (name : String) (denied : Bool) : List String → Run (Except Bool String)
  | [] => return .error denied
  | directory :: rest => do
    let path := joined directory name
    match ← Run.node? path with
    | some (.program _) => return .ok path
    | some (.file _ mode) =>
      if mode &&& 0o111 != 0 then return .ok path else inDirectories name true rest
    | some _ => inDirectories name true rest
    | none => inDirectories name denied rest

/-- The program of a name without slashes, on the search path or on another one. -/
def program (name : String) (path : Option String := none) : Run (Except Bool String) := do
  let path ←
    match path with
    | some p => pure p
    | none => pure ((← Run.value? "PATH").getD "")
  inDirectories name false (path.splitOn ":")

/-- The words for a name that is no program. -/
def failureText (denied : Bool) : Run String := do
  if denied then return FileError.denied.text
  return if (← Run.process).wordy then "command not found" else "not found"

/-- What a name means. -/
def meaning (name : String) (functions : Bool := true) (path : Option String := none) :
    Run Meaning := do
  if name.contains '/' then return .program name
  let p ← Run.process
  match if functions then p.functions.lookup name else none with
  | some body => return .function body
  | none =>
    if isBuiltin name then return .builtin
    match ← program name path with
    | .ok found => return .program found
    | .error denied => return .nothing denied

/-- What is said of a name: in one word, or in a sentence.  `none` stands for a name without a
meaning. -/
def description (brief : Bool) (name : String) (path : Option String := none) :
    Run (Option String) := do
  let sentence (words : String) : Option String := some (if brief then name else name ++ words)
  if keywords.contains name then return sentence " is a shell keyword"
  match (← Run.process).aliases.lookup name with
  | some text =>
    return some (if brief then "alias " ++ name ++ "='" ++ text ++ "'"
      else name ++ " is an alias for " ++ text)
  | none =>
    match ← meaning name true path with
    | .function _ => return sentence " is a shell function"
    | .builtin =>
      return sentence
        (if specialBuiltins.contains name then " is a special shell builtin"
          else " is a shell builtin")
    | .program found =>
      if name.contains '/' && (← Run.node? name).isNone then return none
      if brief then return some found
      let tracked := (← Run.process).tracked.contains name && !name.contains '/'
      return some (name ++ (if tracked then " is a tracked alias for " else " is ") ++ found)
    | .nothing _ => return none

/-- Say what names mean; the status says whether each of them means something. -/
def describe (brief : Bool) (names : List String) (path : Option String := none) :
    Run String := do
  let mut out := ""
  let mut status := 0
  for name in names do
    match ← description brief name path with
    | some text => out := out ++ text ++ "\n"
    | none =>
      unless brief do out := out ++ name ++ ": not found\n"
      status := 127
  Run.setStatus status
  return out

end Lookup

end MonitorKeys.Shell
