/-!
# The shell language

A shell command that gets key commands is a text in the command language of POSIX.  This file holds
that language after it has been read: words with quotes, parameters, arithmetic and the output of
commands; redirections; and commands.

The text of a here-document comes only after the line that asks for it, so a redirection names it
by a number.
-/

namespace MonitorKeys.Shell

/-- What is done with the value of a parameter.  `orEmpty` says that an empty value counts as
none. -/
inductive Use where
  /-- It is taken as it is. -/
  | plain
  /-- Its length is taken. -/
  | length
  /-- A word takes its place where there is none. -/
  | orElse (orEmpty : Bool)
  /-- A word becomes its value where there is none. -/
  | assign (orEmpty : Bool)
  /-- Without one the shell stops. -/
  | must (orEmpty : Bool)
  /-- A word takes its place where there is one. -/
  | instead (orEmpty : Bool)
  /-- A beginning or an end that a pattern matches is dropped. -/
  | trim (fromEnd longest : Bool)
  /-- Nothing that is known. -/
  | unknown
  deriving DecidableEq, Repr

/-- Which side of a redirection is named in it. -/
inductive Opening where
  | read
  | write
  /-- Writing to a file that may exist, also where the shell is told to keep files. -/
  | replace
  | append
  | readWrite
  deriving DecidableEq, Repr

mutual

/-- One part of a word before its expansion. -/
inductive Part where
  /-- Characters that stand for themselves. -/
  | chars (text : String) (quoted : Bool)
  /-- The value of a parameter. -/
  | parameter (name : String) (use : Use) (word : List Part) (quoted : Bool)
  /-- What commands print. -/
  | output (body : Command) (quoted : Bool)
  /-- The value of an arithmetic expression. -/
  | arithmetic (expression : List Part) (quoted : Bool)

/-- What a redirection does with a file descriptor. -/
inductive Redirection where
  /-- It is opened on a file. -/
  | file (descriptor : Nat) (opening : Opening) (name : List Part)
  /-- It becomes another name for a descriptor, or is closed by a hyphen. -/
  | duplicate (descriptor : Nat) (source : List Part)
  /-- It reads a here-document. -/
  | document (descriptor : Nat) (number : Nat)

/-- A command; `line` is the number of the line where it begins. -/
inductive Command where
  /-- Assignments, then a program with its arguments. -/
  | simple (line : Nat) (assignments : List (String × List Part)) (words : List (List Part))
      (redirections : List Redirection)
  /-- The output of each command is the input of the next one. -/
  | pipeline (commands : List Command)
  /-- Success if the command fails. -/
  | negate (command : Command)
  /-- The second only if the first succeeds. -/
  | andThen (first second : Command)
  /-- The second only if the first fails. -/
  | orElse (first second : Command)
  /-- One after the other. -/
  | sequence (first second : Command)
  /-- A command that is not waited for. -/
  | background (command : Command)
  /-- A command in a shell of its own. -/
  | subshell (line : Nat) (body : Command) (redirections : List Redirection)
  /-- A command with redirections around it. -/
  | redirected (line : Nat) (body : Command) (redirections : List Redirection)
  /-- A conditional. -/
  | branch (condition yes : Command) (no : Option Command)
  /-- A loop that goes on while the condition succeeds, or until it does. -/
  | loop (untilTrue : Bool) (condition body : Command)
  /-- A loop over the fields of some words. -/
  | each (line : Nat) (name : String) (words : List (List Part)) (body : Command)
  /-- The first command with a pattern that a word matches. -/
  | choose (line : Nat) (subject : List Part) (cases : List (List (List Part) × Option Command))
  /-- A function is given a name. -/
  | define (line : Nat) (name : String) (body : Command)

end

/-- A word before its expansion. -/
abbrev Word := List Part

/-- A here-document: its text, which is expanded or not. -/
abbrev Document := Word

end MonitorKeys.Shell
