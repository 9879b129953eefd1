import MonitorKeys.Shell.Pattern
import MonitorKeys.Shell.Tool.Awk.Table

/-!
# Programs in the pattern language

A program is a list of rules, each with a pattern that says for which records it is meant and with
an action, and of functions that these use.
-/

namespace MonitorKeys.Shell.Tool.Awk

/-- What a name refers to: a variable or a table of the whole program, or a parameter. -/
inductive Name where
  | shared (name : String)
  | parameter (place : Nat)
  deriving DecidableEq, Repr

/-- An operation on two numbers. -/
inductive Operation where
  | add
  | subtract
  | multiply
  | divide
  | modulo
  | power
  deriving DecidableEq, Repr

/-- A comparison. -/
inductive Comparison where
  | equal
  | unequal
  | less
  | lessOrEqual
  | greater
  | greaterOrEqual
  deriving DecidableEq, Repr

/-- Where a record is read from. -/
inductive Origin where
  /-- The files that the program goes through. -/
  | files
  /-- A file by its name. -/
  | file
  /-- What a command prints. -/
  | command
  deriving DecidableEq, Repr

/-- Where a text is printed to. -/
inductive Destination where
  | file
  | append
  | command
  deriving DecidableEq, Repr

/-- An expression. -/
inductive Expr where
  | number (x : Float)
  | text (s : String)
  /-- Whether the record matches. -/
  | regex (r : Regex)
  | variable (v : Name)
  /-- What a table holds under a key of some parts. -/
  | element (table : Name) (key : List Expr)
  | field (index : Expr)
  /-- An expression in parentheses. -/
  | group (e : Expr)
  /-- Several expressions in parentheses. -/
  | list (es : List Expr)
  | assign (target value : Expr)
  | update (operation : Operation) (target value : Expr)
  /-- A step up or down; `before` says that the new value counts. -/
  | step (up before : Bool) (target : Expr)
  | not (e : Expr)
  | negative (e : Expr)
  | positive (e : Expr)
  | calculate (operation : Operation) (a b : Expr)
  | join (a b : Expr)
  | compare (how : Comparison) (a b : Expr)
  | isMatch (e pattern : Expr)
  | isMismatch (e pattern : Expr)
  | both (a b : Expr)
  | either (a b : Expr)
  | choice (test yes no : Expr)
  | isIn (key : List Expr) (table : Name)
  /-- A function of the program; the number is that of the line. -/
  | call (function : String) (arguments : List Expr) (line : Nat)
  /-- A function of the language. -/
  | builtin (name : String) (arguments : List Expr)
  /-- The number of elements of a table, or the length of a text. -/
  | size (v : Name)
  | split (e : Expr) (table : Name) (separator : Option Expr)
  | substitute (everywhere : Bool) (pattern replacement target : Expr)
  | read (origin : Origin) (source : Expr) (target : Option Expr)

/-- A place to print to. -/
structure Output where
  destination : Destination
  name : Expr

/-- A statement. -/
inductive Statement where
  | nothing
  | expression (e : Expr)
  | print (es : List Expr) (output : Option Output)
  | printFormat (es : List Expr) (output : Option Output)
  | block (body : List Statement)
  | choose (test : Expr) (yes no : Statement)
  | whileLoop (test : Expr) (body : Statement)
  | doLoop (body : Statement) (test : Expr)
  | forLoop (start test step : Option Expr) (body : Statement)
  | keyLoop (key : Name) (table : Name) (body : Statement)
  | leaveLoop
  | nextRound
  | next
  | nextFile
  | exit (status : Option Expr)
  | give (value : Option Expr)
  | delete (table : Name) (key : List Expr)
  | clear (table : Name)

/-- When a rule is followed. -/
inductive Pattern where
  | start
  | finish
  | always
  | test (e : Expr)
  /-- From a record to another one. -/
  | range (first last : Expr)

/-- A rule. -/
structure Rule where
  pattern : Pattern
  action : Statement

/-- What a name stands for. -/
inductive Role where
  | open
  | variable
  | table
  deriving DecidableEq, Repr

/-- A function with its parameters. -/
structure Function where
  roles : Array Role
  body : Statement

/-- A program. -/
structure Program where
  rules : List Rule
  functions : Std.HashMap String Function

end MonitorKeys.Shell.Tool.Awk
