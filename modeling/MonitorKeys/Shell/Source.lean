import MonitorKeys.Shell.Syntax

/-!
# Reading a shell text

A `Source` is what is left of a shell text, and what the reader has to keep in mind: the number of
the line, a token that was read too early, aliases, and the here-documents that are still to come.
Readers are actions on it that may stop with a `Mistake`.

A backslash before a line end joins two lines, wherever it is not quoted itself; `nextJoined` and
`peekJoined` see the text that way.
-/

namespace MonitorKeys.Shell

/-- What is wrong in a text, and in which line. -/
structure Mistake where
  line : Nat
  text : String
  deriving DecidableEq, Repr

/-- A unit of a shell text. -/
inductive Token where
  /-- The end of the text. -/
  | stop
  | newline
  | operator (symbol : String)
  /-- A redirection, with the digit in front of it. -/
  | redirect (descriptor : Option Nat) (symbol : String)
  | word (parts : Word)
  | keyword (name : String)

/-- What is to be heeded about the next token: whether line ends before it are skipped, whether it
can be a keyword or an alias, and whether it is the end mark of a here-document. -/
structure Check where
  newlines : Bool := false
  keywords : Bool := false
  aliases : Bool := false
  endMark : Bool := false

/-- A here-document whose text is still to come. -/
structure Waiting where
  number : Nat
  endMark : String
  dropTabs : Bool
  expands : Bool

/-- What is left of a shell text. -/
structure Source where
  rest : List Char
  line : Nat := 1
  pushed : Option Token := none
  check : Check := {}
  aliases : List (String × String) := []
  /-- The aliases whose text is being read, and how much of the text was left behind each. -/
  inUse : List (String × Nat) := []
  waiting : List Waiting := []
  documents : List (Nat × Document) := []
  nextDocument : Nat := 0

/-- A reader of a part of a shell text. -/
abbrev Reader := EStateM Mistake Source

namespace Reader

/-- Stop with a mistake in the current line. -/
def fail {α : Type} (text : String) : Reader α := do
  throw ⟨(← get).line, text⟩

/-- A bound on the number of steps that the rest of the text can take. -/
def bound : Reader Nat := do
  return (← get).rest.length + 2

/-- The next character, which is passed. -/
def next : Reader (Option Char) :=
  modifyGet fun s =>
    match s.rest with
    | [] => (none, s)
    | c :: cs => (some c, { s with rest := cs, line := if c == '\n' then s.line + 1 else s.line })

/-- The text without joined lines in front, and how many lines were joined. -/
def unjoined : List Char → List Char × Nat
  | '\\' :: '\n' :: cs =>
    let (rest, n) := unjoined cs
    (rest, n + 1)
  | cs => (cs, 0)

/-- The next character in joined lines. -/
def peekJoined : Reader (Option Char) :=
  modifyGet fun s =>
    let (rest, n) := unjoined s.rest
    (rest.head?, { s with rest, line := s.line + n })

/-- The next character in joined lines, which is passed. -/
def nextJoined : Reader (Option Char) := do
  let _ ← peekJoined
  next

/-- Put a character back. -/
def back (c : Option Char) : Reader Unit :=
  match c with
  | none => return
  | some c =>
    modify fun s =>
      { s with rest := c :: s.rest, line := if c == '\n' then s.line - 1 else s.line }

/-- Pass a character where it comes next in joined lines. -/
def accept (c : Char) : Reader Bool := do
  if (← peekJoined) == some c then
    let _ ← next
    return true
  return false

/-- The characters that come next in joined lines and satisfy a condition, at most so many. -/
def takeJoined (p : Char → Bool) : Nat → List Char → Reader (List Char)
  | 0, taken => return taken.reverse
  | n + 1, taken => do
    match ← peekJoined with
    | some c =>
      if p c then
        let _ ← next
        takeJoined p n (c :: taken)
      else return taken.reverse
    | none => return taken.reverse

/-- Set what is to be heeded about the next token. -/
def expect (check : Check) : Reader Unit :=
  modify fun s => { s with check }

/-- Put a token back. -/
def push (token : Token) : Reader Unit :=
  modify fun s => { s with pushed := some token }

end Reader

/-! ## Characters -/

/-- Whether a character may begin a name. -/
def isNameStart (c : Char) : Bool :=
  c.isAlpha || c == '_'

/-- Whether a character may go on with a name. -/
def isNameRest (c : Char) : Bool :=
  c.isAlphanum || c == '_'

/-- Whether a text is a name. -/
def isName (s : String) : Bool :=
  match s.toList with
  | c :: cs => isNameStart c && cs.all isNameRest
  | [] => false

/-- Whether a character alone is the name of a parameter. -/
def isSpecialName (c : Char) : Bool :=
  c.isDigit || "?$#@*!-".toList.contains c

/-- Whether a character that is not quoted ends a word. -/
def endsWord (c : Char) : Bool :=
  " \t\n;&|<>()".toList.contains c

/-- The words with a meaning of their own at the start of a command. -/
def keywords : List String :=
  ["!", "case", "do", "done", "elif", "else", "esac", "fi", "for", "if", "in", "then", "until",
   "while", "\x7b", "\x7d"]

/-- How a message shows a token. -/
def Token.shown : Token → String
  | stop => "end of file"
  | newline => "newline"
  | operator symbol => "\"" ++ symbol ++ "\""
  | redirect _ _ => "redirection"
  | word _ => "word"
  | keyword name => "\"" ++ name ++ "\""

/-- The text of a word that has no quotes and no expansions. -/
def plainText? : Word → Option String
  | [] => some ""
  | [.chars s false] => some s
  | _ => none

/-- Whether a word has quotes. -/
def hasQuotes (w : Word) : Bool :=
  w.any fun
    | .chars _ quoted => quoted
    | _ => false

/-- A word, the last part of which comes first, with one more character. -/
def addChar (parts : Word) (quoted : Bool) (c : Char) : Word :=
  match parts with
  | .chars s q :: rest =>
    if q == quoted then .chars (s.push c) q :: rest
    else .chars (String.singleton c) quoted :: parts
  | _ => .chars (String.singleton c) quoted :: parts

end MonitorKeys.Shell
