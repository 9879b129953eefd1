import MonitorKeys.Shell.Builtin.Options
import MonitorKeys.Shell.Expand

/-!
# The builtin that reads a line

`read` splits a line into as many texts as there are names, and the last name gets all that is left.
A backslash joins two lines, and keeps the next character from being split at, unless the line is
taken as it is.
-/

namespace MonitorKeys.Shell.Builtin

/-- A character of a line, and whether the line may be split at it. -/
abbrev LineChar := Char × Bool

/-- The characters of a line without its end, and whether it goes on with another line. -/
def lineChars (asIs : Bool) : List Char → List LineChar × Bool
  | [] => ([], false)
  | '\\' :: cs =>
    if asIs then
      let (more, joined) := lineChars asIs cs
      (('\\', true) :: more, joined)
    else
      match cs with
      | [] => ([], false)
      | ['\n'] => ([], true)
      | c :: cs =>
        let (more, joined) := lineChars asIs cs
        ((c, false) :: more, joined)
  | '\n' :: _ => ([], false)
  | c :: cs =>
    let (more, joined) := lineChars asIs cs
    ((c, true) :: more, joined)

/-- Read a line, and those that are joined to it; the answer says also whether it was complete.  The
first argument bounds the number of lines. -/
def joinedLine (asIs : Bool) : Nat → Run (List LineChar × Bool)
  | 0 => return ([], false)
  | n + 1 => do
    match ← Run.readLine 0 with
    | .error _ => return ([], false)
    | .ok s =>
      let (chars, joined) := lineChars asIs (s.toList.filter (· != '\x00'))
      if joined then
        let (more, complete) ← joinedLine asIs n
        return (chars ++ more, complete)
      return (chars, s.endsWith "\n")

/-- Whether a character is one at which the line is split, and a blank where that is asked for. -/
def isSeparator (separators : List Char) (blank : Bool) (c : LineChar) : Bool :=
  c.2 && separators.contains c.1 && (!blank || c.1 == ' ' || c.1 == '\t' || c.1 == '\n')

/-- The first field of a line, and the line behind the separators after it. -/
def firstField (separators : List Char) (cs : List LineChar) : List LineChar × List LineChar :=
  let field := cs.takeWhile (!isSeparator separators false ·)
  let rest := (cs.drop field.length).dropWhile (isSeparator separators true)
  match rest with
  | c :: after =>
    if isSeparator separators false c then (field, after.dropWhile (isSeparator separators true))
    else (field, rest)
  | [] => (field, [])

/-- The texts that some names get of a line without blanks in front. -/
def shares (separators : List Char) : List String → List LineChar → List (String × String)
  | [], _ => []
  | [name], cs =>
    let (field, rest) := firstField separators cs
    let share := if rest.isEmpty then field
      else (cs.reverse.dropWhile (isSeparator separators true)).reverse
    [(name, String.ofList (share.map (·.1)))]
  | name :: names, cs =>
    let (field, rest) := firstField separators cs
    (name, String.ofList (field.map (·.1))) :: shares separators names rest

/-- `read`. -/
def read : Builtin := fun arguments => do
  let (found, names) ← options "r" arguments "p"
  if names.isEmpty then Run.fail "arg count"
  let bound := (← Run.system).steps
  let (chars, complete) ← joinedLine (found.any (·.1 == 'r')) (bound + 1)
  let separators ← Expand.separators
  let line := chars.dropWhile (isSeparator separators true)
  for (name, text) in shares separators names line do
    Run.checkName name
    Run.assign name text
  Run.setStatus (if complete then 0 else 1)
  return ""

end MonitorKeys.Shell.Builtin
