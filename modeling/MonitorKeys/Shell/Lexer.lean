import MonitorKeys.Shell.Source

/-!
# Words and tokens of the shell

A text is split into words, operators and line ends.  Quotes and backslashes take the special
meaning from characters, a dollar sign or a backquote begins an expansion, and a `#` at the start of
a word begins a comment.

Words hold commands, and commands hold words.  So the readers here take the reader for both as an
argument, and a `Goal` says what is asked of it.
-/

namespace MonitorKeys.Shell

/-- The surroundings in which a part of a word is read. -/
inductive Mode where
  /-- No quotes; the part ends where the word does. -/
  | bare
  /-- The word of a parameter in braces, without quotes around. -/
  | braced
  /-- Double quotes; `inBraces` says that these stand in braces themselves. -/
  | double (inBraces : Bool)
  /-- The word of a parameter in braces that stand in double quotes. -/
  | bracedDouble
  /-- An arithmetic expression. -/
  | arithmetic
  /-- A here-document. -/
  | document
  deriving DecidableEq, Repr

/-- Where a list of commands may end. -/
inductive ListEnd where
  /-- At the end of the line. -/
  | line
  /-- At a keyword or an operator that cannot go on with it, after at least one command. -/
  | body
  /-- At such a token, also without any command. -/
  | optional
  deriving DecidableEq, Repr

/-- What can be asked of the reader for commands and words. -/
inductive Goal where
  | list (ending : ListEnd)
  | command
  | parts (mode : Mode)

/-- What the reader answers. -/
abbrev Goal.Answer : Goal → Type
  | list _ => Option Command
  | command => Command
  | parts _ => Word

/-- A reader for commands and words. -/
abbrev Recur := (goal : Goal) → Reader goal.Answer

namespace Mode

/-- Whether what is read counts as quoted. -/
def quotes : Mode → Bool
  | bare | braced => false
  | _ => true

/-- The surroundings for the word of a parameter. -/
def forWord (mode : Mode) (use : Use) : Mode :=
  match use with
  | .trim _ _ => braced
  | _ => if mode.quotes then bracedDouble else braced

/-- Whether a backslash keeps its meaning before a character in quotes. -/
def escapes (mode : Mode) (c : Char) : Bool :=
  c == '\\' || c == '\x60' || c == '$' ||
    match mode with
    | double inBraces => c == '"' || c == '\x7d' && inBraces
    | bracedDouble => c == '"' || c == '\x7d'
    | arithmetic => c == '"'
    | _ => false

end Mode

namespace Reader

/-! ## Parameters -/

/-- The use of a parameter that the character after its name asks for, with whether a word comes
after it.  The character has been passed. -/
def useOf (c : Option Char) : Reader (Use × Bool) := do
  let known (orEmpty : Bool) (d : Option Char) : Use × Bool :=
    match d with
    | some '\x7d' => (.plain, orEmpty)
    | some '-' => (.orElse orEmpty, true)
    | some '+' => (.instead orEmpty, true)
    | some '?' => (.must orEmpty, true)
    | some '=' => (.assign orEmpty, true)
    | _ => (.unknown, true)
  match c with
  | some ':' => return known true (← nextJoined)
  | some '#' => return (.trim false (← accept '#'), true)
  | some '%' => return (.trim true (← accept '%'), true)
  | _ => return known false c

/-- The name of a parameter in braces, its use, and whether a word comes after it. -/
def bracedName : Reader (String × Use × Bool) := do
  let n ← bound
  let finish (name : String) : Reader (String × Use × Bool) := do
    let (use, more) ← useOf (← nextJoined)
    return (name, use, more)
  let length (name : String) : Reader (String × Use × Bool) := do
    let known := (← peekJoined) == some '\x7d'
    return (name, if known then .length else .unknown, true)
  match ← nextJoined with
  | none => return ("", .unknown, true)
  | some c =>
    if isNameStart c then finish (String.ofList (c :: (← takeJoined isNameRest n [])))
    else if c.isDigit then finish (String.ofList (c :: (← takeJoined Char.isDigit n [])))
    else if c == '\x7d' then
      back c
      return ("", .unknown, true)
    else if c == '#' then
      let d ← nextJoined
      if d.any fun d => isNameRest d then
        let rest ← takeJoined (if d.any Char.isDigit then Char.isDigit else isNameRest) n []
        length (String.ofList (d.toList ++ rest))
      else
        let e ← nextJoined
        back e
        if d == some '\x7d' || e != some '\x7d' then
          let (use, more) ← useOf d
          return ("#", use, more)
        else if d.any isSpecialName then length (String.ofList d.toList)
        else return ("", .unknown, true)
    else if isSpecialName c then finish (String.singleton c)
    else return ("", .unknown, true)

/-- A parameter in braces, the first of which has been passed. -/
def bracedParameter (recur : Recur) (mode : Mode) : Reader Part := do
  let (name, use, more) ← bracedName
  let word ← if more then recur (.parts (mode.forWord use)) else pure []
  return .parameter name use word mode.quotes

/-! ## The output of commands -/

/-- Commands up to a closing parenthesis. -/
def substitution (recur : Recur) : Reader (Option Command) := do
  let outer ← get
  set { outer with pushed := none, waiting := [], check := {} }
  let body ← recur (.list .optional)
  let last ← modifyGet fun s => (s.pushed, { s with pushed := none })
  match last with
  | some (.operator ")") =>
    modify fun s => { s with pushed := outer.pushed, waiting := outer.waiting, check := outer.check }
    return body
  | some token => fail ("Syntax error: " ++ token.shown ++ " unexpected (expecting \")\")")
  | none => fail "Syntax error: newline unexpected (expecting \")\")"

/-- The text between backquotes, the first of which has been passed. -/
def backquoted (mode : Mode) : Nat → List Char → Reader (List Char)
  | 0, _ => fail "Syntax error: EOF in backquote substitution"
  | n + 1, taken => do
    match ← nextJoined with
    | none => fail "Syntax error: EOF in backquote substitution"
    | some '\x60' => return taken.reverse
    | some '\\' =>
      match ← next with
      | none => fail "Syntax error: EOF in backquote substitution"
      | some c =>
        let bare := c == '\\' || c == '\x60' || c == '$' || c == '"' && mode.quotes
        backquoted mode n (if bare then c :: taken else c :: '\\' :: taken)
    | some c => backquoted mode n (c :: taken)

/-- Commands between backquotes. -/
def backquotes (recur : Recur) (mode : Mode) : Reader (Option Command) := do
  let text ← backquoted mode (← bound) []
  let outer ← get
  set { outer with rest := text, pushed := none, waiting := [], check := {}, inUse := [] }
  let body ← recur (.list .optional)
  modify fun s =>
    { outer with documents := s.documents, nextDocument := s.nextDocument }
  return body

/-- No command. -/
def nothing : Command :=
  .simple 0 [] [] []

/-! ## Parts of words -/

/-- What a dollar sign that has been passed begins. -/
def dollar (recur : Recur) (mode : Mode) : Reader Part := do
  let quoted := mode.quotes
  if (← get).check.endMark then return .chars "$" quoted
  match ← peekJoined with
  | some '(' =>
    let _ ← next
    if ← accept '(' then return .arithmetic (← recur (.parts .arithmetic)) quoted
    return .output ((← substitution recur).getD nothing) quoted
  | some '\x7b' =>
    let _ ← next
    bracedParameter recur mode
  | some c =>
    if isNameStart c then
      return .parameter (String.ofList (← takeJoined isNameRest (← bound) [])) .plain [] quoted
    else if isSpecialName c then
      let _ ← next
      return .parameter (String.singleton c) .plain [] quoted
    else return .chars "$" quoted
  | none => return .chars "$" quoted

/-- The characters up to a single quote, which is passed. -/
def singleQuoted : Nat → String → Reader String
  | 0, taken => return taken
  | n + 1, taken => do
    match ← next with
    | none => fail "Syntax error: Unterminated quoted string"
    | some '\'' => return taken
    | some c => singleQuoted n (taken.push c)

/-- What is wrong with a text that ends within a part. -/
def cutMistake : Mode → String
  | .arithmetic => "Syntax error: Missing '))'"
  | .braced => "Syntax error: Missing '\x7d'"
  | _ => "Syntax error: Unterminated quoted string"

/-- What a backslash that has been passed stands for, added to parts. -/
def escaped (mode : Mode) (parts : Word) : Reader Word := do
  match ← next with
  | none => return addChar parts true '\\'
  | some c =>
    if mode.quotes && !mode.escapes c then return addChar (addChar parts true '\\') true c
    else return addChar parts true c

/-- The rest of a part of a word, given what was read of it from its end on, the number of open
parentheses, and whether quotes within braces within quotes are open. -/
def partsFrom (recur : Recur) (mode : Mode) : Nat → Nat → Bool → Word → Reader Word
  | 0, _, _, parts => return parts.reverse
  | n + 1, open_, inner, parts => do
    let goOn := partsFrom recur mode n open_ inner
    match ← peekJoined with
    | none =>
      if mode == .bare || mode == .document then return parts.reverse
      else fail (cutMistake mode)
    | some c =>
      if mode == .bare && endsWord c then return parts.reverse
      let _ ← next
      match c with
      | '\\' => goOn (← escaped mode parts)
      | '$' => goOn ((← dollar recur mode) :: parts)
      | '\x60' =>
        if (← get).check.endMark then goOn (addChar parts mode.quotes c)
        else goOn (.output ((← backquotes recur mode).getD nothing) mode.quotes :: parts)
      | '\'' =>
        if mode.quotes then goOn (addChar parts true c)
        else goOn (.chars (← singleQuoted (← bound) "") true :: parts)
      | '"' =>
        match mode with
        | .bare | .braced =>
          match ← recur (.parts (.double (mode == .braced))) with
          | [.parameter "@" .plain [] true] => goOn (.parameter "@" .plain [] true :: parts)
          | quoted => goOn (quoted.reverse ++ .chars "" true :: parts)
        | .double _ => return parts.reverse
        | .bracedDouble => partsFrom recur mode n open_ (!inner) parts
        | _ => goOn (addChar parts true c)
      | '\x7d' =>
        if mode == .braced || mode == .bracedDouble && !inner then return parts.reverse
        else goOn (addChar parts mode.quotes c)
      | '(' => partsFrom recur mode n (open_ + 1) inner (addChar parts mode.quotes c)
      | ')' =>
        if mode != .arithmetic then goOn (addChar parts mode.quotes c)
        else if open_ != 0 then partsFrom recur mode n (open_ - 1) inner (addChar parts true c)
        else if ← accept ')' then return parts.reverse
        else goOn (addChar parts true c)
      | c => goOn (addChar parts mode.quotes c)

/-! ## Here-documents -/

/-- The lines of a here-document, from the last one on.  A line behind a joined one does not end
it. -/
def documentLines (waiting : Waiting) : Nat → Bool → List (List Char) → Reader (List (List Char))
  | 0, _, taken => return taken
  | n + 1, joined, taken => do
    let s ← get
    if s.rest.isEmpty then return taken
    let whole := s.rest.takeWhile (· != '\n')
    let complete := whole.length < s.rest.length
    let rest := s.rest.drop (whole.length + 1)
    let line := if waiting.dropTabs then whole.dropWhile (· == '\t') else whole
    set { s with rest, line := if complete then s.line + 1 else s.line }
    if !joined && line == waiting.endMark.toList then return taken
    let ended := if complete then line ++ ['\n'] else line
    let joins := waiting.expands && ((line.reverse.takeWhile (· == '\\')).length % 2 == 1)
    documentLines waiting n joins (ended :: taken)

/-- Read the here-documents that are due. -/
def readDocuments (recur : Recur) : Reader Unit := do
  let due ← modifyGet fun s => (s.waiting, { s with waiting := [] })
  for waiting in due do
    let text := (← documentLines waiting (← bound) false []).reverse.flatten
    let document ←
      if !waiting.expands then pure [Part.chars (String.ofList text) true]
      else do
        let outer ← get
        set { outer with rest := text, pushed := none }
        let parts ← recur (.parts .document)
        modify fun s =>
          { outer with documents := s.documents, nextDocument := s.nextDocument }
        pure parts
    modify fun s => { s with documents := (waiting.number, document) :: s.documents }

/-! ## Tokens -/

/-- Pass the rest of a line, but not its end. -/
def skipComment : Reader Unit :=
  modify fun s => { s with rest := s.rest.dropWhile (· != '\n') }

/-- Pass blanks and comments. -/
def skipBlanks : Nat → Reader Unit
  | 0 => return
  | n + 1 => do
    match ← peekJoined with
    | some ' ' | some '\t' =>
      let _ ← next
      skipBlanks n
    | some '#' =>
      skipComment
      skipBlanks n
    | _ => return

/-- The redirection that a character begins which has been passed. -/
def redirection (c : Char) : Reader String := do
  if c == '>' then
    if ← accept '>' then return ">>"
    else if ← accept '|' then return ">|"
    else if ← accept '&' then return ">&"
    else return ">"
  else if ← accept '<' then
    if ← accept '-' then return "<<-"
    else return "<<"
  else if ← accept '&' then return "<&"
  else if ← accept '>' then return "<>"
  else return "<"

/-- A word, or a redirection with a digit in front. -/
def wordToken (recur : Recur) : Reader Token := do
  let parts ← recur (.parts .bare)
  match parts, ← peekJoined with
  | [.chars d false], some c =>
    match Char.toNat <$> d.toList with
    | [n] =>
      if (c == '<' || c == '>') && 48 ≤ n && n ≤ 57 then
        let _ ← next
        return .redirect (some (n - 48)) (← redirection c)
      else return .word parts
    | _ => return .word parts
  | _, _ => return .word parts

/-- The next token of the text. -/
def scan (recur : Recur) : Reader Token := do
  skipBlanks (← bound)
  match ← peekJoined with
  | none => return .stop
  | some c =>
    let pass : Reader Unit := do let _ ← next
    match c with
    | '\n' =>
      pass
      return .newline
    | '&' =>
      pass
      return .operator (if ← accept '&' then "&&" else "&")
    | '|' =>
      pass
      return .operator (if ← accept '|' then "||" else "|")
    | ';' =>
      pass
      return .operator (if ← accept ';' then ";;" else ";")
    | '(' =>
      pass
      return .operator "("
    | ')' =>
      pass
      return .operator ")"
    | '<' | '>' =>
      pass
      return .redirect none (← redirection c)
    | _ => wordToken recur

/-- The token that was put back, or else the next one of the text. -/
def raw (recur : Recur) : Reader Token := do
  match ← modifyGet fun s => (s.pushed, { s with pushed := none }) with
  | some token => return token
  | none => scan recur

/-- Pass line ends, and read the here-documents behind them. -/
def skipNewlines (recur : Recur) : Nat → Token → Reader Token
  | 0, token => return token
  | n + 1, token => do
    match token with
    | .newline =>
      readDocuments recur
      expect {}
      skipNewlines recur n (← raw recur)
    | token => return token

/-- Put the text of an alias in front of the rest; `false` where there is none of that name, or
its text is being read. -/
def useAlias (name : String) : Reader Bool := do
  let s ← get
  match s.aliases.lookup name with
  | none => return false
  | some text =>
    let left := s.rest.length
    let inUse := s.inUse.filter fun used => used.2 < left
    if inUse.any (·.1 == name) then return false
    set { s with rest := text.toList ++ s.rest, inUse := (name, left) :: inUse }
    return true

/-- The next token, where keywords and aliases are known as far as they are to be heeded. -/
def token (recur : Recur) : Reader Token := do
  let check := (← get).check
  let rec go : Nat → Reader Token
    | 0 => return .stop
    | n + 1 => do
      let first ← raw recur
      let found ← if check.newlines then skipNewlines recur (← bound) first else pure first
      let check : Check :=
        let now := (← get).check
        { check with
          keywords := check.keywords || now.keywords, aliases := check.aliases || now.aliases }
      expect {}
      match found with
      | .word parts =>
        match plainText? parts with
        | some text =>
          if check.keywords && keywords.contains text then return .keyword text
          if check.aliases then
            if ← useAlias text then return ← go n
          return found
        | none => return found
      | found => return found
  go ((← get).aliases.length + 100)

end Reader

end MonitorKeys.Shell
