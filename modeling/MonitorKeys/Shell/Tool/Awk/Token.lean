import MonitorKeys.Shell.Tool.Awk.Matching
import MonitorKeys.Shell.Tool.Awk.Program

/-!
# Tokens of the pattern language

The text of a program is read token by token.  What a sign means depends on the tokens before it: a
slash begins an expression where no operand stands in front of it, the signs for comparisons lead to
files behind a word that prints or reads, and a name in front of a parenthesis is a function where
nothing else is known about it.
-/

namespace MonitorKeys.Shell.Tool.Awk

/-- A token. -/
inductive Token where
  | number (text : String)
  | text (s : String)
  | regex (s : String)
  | name (s : String)
  | function (s : String)
  | builtin (s : String)
  | keyword (s : String)
  /-- A field whose number is given. -/
  | field (n : Nat)
  /-- The number of fields. -/
  | count
  | sign (s : String)
  /-- The sign behind which a file to print to is named. -/
  | out (s : String)
  /-- The sign behind which a file to read is named. -/
  | into
  | lineEnd
  /-- The end of a statement in front of a closing brace. -/
  | closing
  | finish
  | unexpected (c : Char)
  deriving DecidableEq, Repr

/-- The text of a token in messages. -/
def Token.shown : Token → String
  | number s | text s | name s | function s | builtin s | keyword s | sign s => s
  | regex s => "/" ++ s ++ "/"
  | field _ | count => "$"
  | out s => if s == ">>" then ">" else s
  | into => "<"
  | lineEnd => "end of line"
  | closing => "\x7d"
  | finish => "end of file"
  | unexpected c => String.singleton c

/-- Whether a slash behind a token divides. -/
def Token.isOperand : Token → Bool
  | number _ | text _ | regex _ | name _ | field _ | count => true
  | keyword s => s == "getline"
  | sign s => s == ")" || s == "]" || s == "++" || s == "--"
  | _ => false

/-- Whether a statement ends behind a token. -/
def Token.isEnd (t : Token) : Bool :=
  t == .sign ";" || t == .lineEnd || t == .closing || t == .sign "\x7d"

/-- The words of the language. -/
def keywords : List String :=
  ["BEGIN", "END", "break", "continue", "delete", "do", "else", "exit", "for", "function",
   "getline", "if", "in", "next", "nextfile", "print", "printf", "return", "while"]

/-- The functions of the language with the least and the greatest number of their arguments. -/
def builtins : List (String × Nat × Nat) :=
  [("atan2", 2, 2), ("close", 1, 1), ("cos", 1, 1), ("exp", 1, 1), ("fflush", 0, 1),
   ("gsub", 2, 3), ("index", 2, 2), ("int", 1, 1), ("length", 0, 1), ("log", 1, 1),
   ("match", 2, 2), ("mktime", 1, 1), ("rand", 0, 0), ("sin", 1, 1), ("split", 2, 3),
   ("sprintf", 1, 255), ("sqrt", 1, 1), ("srand", 0, 1), ("strftime", 0, 3), ("sub", 2, 3),
   ("substr", 2, 3), ("system", 1, 1), ("systime", 0, 0), ("tolower", 1, 1), ("toupper", 1, 1)]

/-- What is known about a name. -/
inductive Use where
  | role (r : Role)
  | function
  deriving DecidableEq, Repr

/-- A call of a function of the program with its arguments that are names, for which the roles are
to be found. -/
structure Call where
  function : String
  /-- The names among the arguments; others are `none`. -/
  arguments : List (Option Name)
  /-- The function that the call stands in. -/
  inside : Option String
  line : Nat

/-- How far a program has been read. -/
structure Reading where
  chars : Array Char
  place : Nat := 0
  line : Nat := 1
  /-- The line of the last token. -/
  tokenLine : Nat := 1
  /-- The last token that was read. -/
  last : Token := .lineEnd
  /-- A token that was read and is still to be used. -/
  ahead : Option Token := none
  parentheses : Nat := 0
  braces : Nat := 0
  /-- Whether a statement that prints is being read. -/
  printing : Bool := false
  /-- Whether a file to read may be named. -/
  naming : Bool := false
  /-- Whether several expressions in parentheses may come next. -/
  listing : Bool := false
  /-- The messages so far, the last one first. -/
  messages : List String := []
  /-- How many tokens have to be used until mistakes are reported again. -/
  quiet : Nat := 0
  /-- What is known about the names of the program. -/
  uses : Std.HashMap String Use := {}
  /-- The parameters of the function that is being read. -/
  parameters : List String := []
  /-- The roles of these parameters. -/
  roles : Array Role := #[]
  /-- The function that is being read. -/
  inside : Option String := none
  /-- How many loops are around. -/
  loops : Nat := 0
  functions : Std.HashMap String Function := {}
  rules : List Rule := []
  calls : List Call := []
  /-- Whether an action that may ask for the next record is being read. -/
  inRule : Bool := false

/-- Why reading stops. -/
inductive Halt where
  /-- A token does not fit. -/
  | unfit
  /-- There is no use in going on. -/
  | over

/-- A reader of a part of a program. -/
abbrev Reader := EStateM Halt Reading

namespace Reader

/-! ## Messages -/

/-- Note a message; after the fifth one reading stops. -/
def report (text : String) : Reader Unit := do
  modify fun r => { r with messages := text :: r.messages }
  if 5 ≤ (← get).messages.length then throw .over

/-- Note what is wrong in the line of the last token. -/
def complain (text : String) : Reader Unit := do
  report ("line " ++ toString (← get).tokenLine ++ ": " ++ text)

/-- Note what is wrong and stop. -/
def giveUp {α : Type} (text : String) : Reader α := do
  complain text
  throw .over

/-! ## Characters -/

/-- The character at a distance from the place that was reached. -/
def peekChar (distance : Nat := 0) : Reader (Option Char) := do
  let r ← get
  return r.chars[r.place + distance]?

/-- Pass some characters. -/
def skip (count : Nat) : Reader Unit :=
  modify fun r => { r with place := r.place + count }

/-- How many characters are left, and one more. -/
def bound : Reader Nat := do
  let r ← get
  return r.chars.size + 1 - r.place

/-- Count a line end that was passed. -/
def countLine : Reader Unit :=
  modify fun r => { r with line := r.line + 1 }

/-- The characters that a test holds for, which are passed. -/
def takeWhile (p : Char → Bool) : Reader (List Char) := do
  let r ← get
  let rec go : Nat → Nat → List Char → List Char
    | 0, _, out => out
    | n + 1, place, out =>
      match r.chars[place]? with
      | some c => if p c then go n (place + 1) (c :: out) else out
      | none => out
  let cs := (go (r.chars.size + 1 - r.place) r.place []).reverse
  skip cs.length
  return cs

/-- Whether a character is a blank within a line. -/
def isBlank (c : Char) : Bool :=
  c == ' ' || c == '\t' || c == '\x0b' || c == '\x0c' || c == '\r'

/-- Whether a character can begin a name. -/
def isLetter (c : Char) : Bool :=
  c.isAlpha || c == '_'

/-- Pass a comment up to its line end. -/
def passComment : Reader Unit := do
  let _ ← takeWhile (· != '\n')

/-- Whether a backslash at the place that was reached joins two lines, which it then does. -/
def joinsLines : Reader Bool := do
  let before ← get
  skip 1
  let _ ← takeWhile isBlank
  if (← peekChar) == some '\n' then
    skip 1
    countLine
    return true
  else
    set before
    return false

/-- Pass blanks, line ends and comments. -/
def passLines : Nat → Reader Unit
  | 0 => return
  | n + 1 => do
    match ← peekChar with
    | some '\n' =>
      skip 1
      countLine
      passLines n
    | some '#' =>
      passComment
      passLines n
    | some '\\' => if ← joinsLines then passLines n
    | some c =>
      if isBlank c then
        skip 1
        passLines n
    | none => return

/-- Pass blanks, line ends and comments. -/
def passAllLines : Reader Unit := do
  passLines (← bound)

/-- Pass one semicolon, where nothing but blanks is in front of it. -/
def passSemicolon : Reader Unit := do
  let _ ← takeWhile isBlank
  if (← peekChar) == some ';' then skip 1

/-! ## Longer tokens -/

/-- The rest of a text in quotes.  The first argument bounds its length. -/
def textToken (n : Nat) (out : List Char) : Reader Token := do
  let runaway : Reader Token :=
    giveUp ("runaway string constant \"" ++ String.ofList out.reverse ++ " ...")
  match n with
  | 0 => runaway
  | n + 1 =>
    match ← peekChar with
    | none | some '\n' => runaway
    | some '"' =>
      skip 1
      return .text (unescape (String.ofList out.reverse))
    | some '\\' =>
      match ← peekChar 1 with
      | some '\n' =>
        skip 2
        countLine
        textToken n out
      | some c =>
        skip 2
        textToken n (c :: '\\' :: out)
      | none =>
        skip 1
        textToken n ('\\' :: out)
    | some c =>
      skip 1
      textToken n (c :: out)

/-- The rest of an expression between slashes; `depth` counts the brackets around, of which the
first one was opened `since` characters ago.  The first argument bounds its length. -/
def regexToken (n : Nat) (out : List Char) (depth since : Nat) : Reader Token := do
  let runaway : Reader Token :=
    giveUp ("runaway regular expression /" ++ String.ofList out.reverse ++ " ...")
  match n with
  | 0 => runaway
  | n + 1 =>
    match ← peekChar with
    | none | some '\n' => runaway
    | some '\\' =>
      match ← peekChar 1 with
      | some '/' =>
        skip 2
        regexToken n ('/' :: out) depth (since + 1)
      | some '\n' =>
        skip 2
        regexToken n out depth since
      | some c =>
        skip 2
        regexToken n (c :: '\\' :: out) depth (since + 2)
      | none =>
        skip 1
        regexToken n ('\\' :: out) depth (since + 1)
    | some c =>
      skip 1
      if c == '/' && depth == 0 then return .regex (String.ofList out.reverse)
      else if c == '[' && depth == 0 then regexToken n (c :: out) 1 0
      else if c == '[' && (← peekChar) == some ':' then
        regexToken n (c :: out) (depth + 1) (since + 1)
      else if c == '^' && depth == 1 && out.head? == some '[' then regexToken n (c :: out) depth 0
      else if c == ']' && depth != 0 && since != 0 then
        regexToken n (c :: out) (depth - 1) (since + 1)
      else regexToken n (c :: out) depth (since + 1)

/-- The text of the number at the place that was reached; `none` for a point without digits. -/
def numberText : Reader (Option String) := do
  let whole ← takeWhile Char.isDigit
  let fraction ←
    if (← peekChar) == some '.' then do
      skip 1
      pure ('.' :: (← takeWhile Char.isDigit))
    else pure []
  if whole.isEmpty && fraction.length ≤ 1 then return none
  let isExponent (c : Option Char) : Bool := c == some 'e' || c == some 'E'
  let exponent ←
    if isExponent (← peekChar) then do
      let signs := if (← peekChar 1) == some '-' || (← peekChar 1) == some '+' then 1 else 0
      if ((← peekChar (1 + signs)).any Char.isDigit) then
        let r ← get
        let start := (r.chars.extract r.place (r.place + 1 + signs)).toList
        skip (1 + signs)
        pure (start ++ (← takeWhile Char.isDigit))
      else if signs == 0 then do
        skip 1
        modify fun r => { r with place := r.place - 1 }
        pure []
      else pure []
    else pure []
  return some (String.ofList (whole ++ fraction ++ exponent))

/-- The token of a dollar sign that was passed. -/
def fieldToken : Reader Token := do
  let before ← get
  let _ ← takeWhile isBlank
  match ← peekChar with
  | some c =>
    if c.isDigit || c == '.' then
      match ← numberText with
      | none => return .unexpected '.'
      | some s =>
        let x := numberOf s
        match truncate? x with
        | some n =>
          if whole n != x then complain ("$" ++ s ++ " is invalid field index")
          return .field n.toNat
        | none => return .field 0
    else
      set before
      return .sign "$"
  | none => return .sign "$"

/-- The token of a name or a word. -/
def wordToken : Reader Token := do
  let word := String.ofList (← takeWhile fun c => isLetter c || c.isDigit)
  let r ← get
  if r.parameters.contains word then return .name word
  if keywords.contains word then return .keyword word
  if (builtins.lookup word).isSome then return .builtin word
  if word == "NF" then return .count
  match r.uses[word]? with
  | some .function => return .function word
  | some (.role _) => return .name word
  | none =>
    if (← peekChar) == some '(' then
      modify fun r => { r with uses := r.uses.insert word .function }
      return .function word
    return .name word

/-! ## Tokens -/

/-- The signs of two or three characters. -/
def longSigns : List String :=
  ["++", "--", "+=", "-=", "*=", "%=", "^=", "==", "!=", "!~", "<=", ">=", "&&", "||"]

/-- The token of a closing brace, which is passed unless a statement before it is still to end. -/
def closingBrace : Reader (Option Token) := do
  if (← get).braces == 0 then
    skip 1
    complain "extra '\x7d'"
    passSemicolon
    return none
  else if (← get).last.isEnd then
    skip 1
    modify fun r => { r with braces := r.braces - 1 }
    if (← get).braces == 0 then passSemicolon
    passAllLines
    return some (.sign "\x7d")
  else return some .closing

/-- The token of a sign.  `none` means that what was passed is to be left out. -/
def signToken (c : Char) : Reader (Option Token) := do
  let following ← peekChar 1
  let two := String.ofList (c :: following.toList)
  let r ← get
  let sign (s : String) : Reader (Option Token) := do
    skip s.length
    return some (.sign s)
  if c == '/' then
    if r.last.isOperand then
      if following == some '=' then sign "/=" else sign "/"
    else
      skip 1
      return some (← regexToken (← bound) [] 0 0)
  else if two == "&&" || two == "||" then
    skip 2
    if c == '&' then passAllLines
    if c == '|' then passAllLines
    return some (.sign two)
  else if c == '>' && r.printing && r.parentheses == 0 then
    modify fun r => { r with printing := false }
    if two == ">>" then
      skip 2
      return some (.out ">>")
    skip 1
    return some (.out ">")
  else if c == '|' && r.printing && r.parentheses == 0 then
    modify fun r => { r with printing := false }
    skip 1
    return some (.out "|")
  else if longSigns.contains two then sign two
  else if c == '<' && r.naming then
    modify fun r => { r with naming := false }
    skip 1
    return some .into
  else if c == ',' || c == '\x7b' || c == ';' then
    skip 1
    passAllLines
    if c == '\x7b' then modify fun r => { r with braces := r.braces + 1 }
    return some (.sign (String.singleton c))
  else if c == '(' then
    modify fun r => { r with parentheses := r.parentheses + 1 }
    sign "("
  else if c == ')' then
    if r.parentheses == 0 then
      skip 1
      complain "extra ')'"
      return none
    modify fun r => { r with parentheses := r.parentheses - 1 }
    sign ")"
  else if c == '\x7d' then closingBrace
  else if c == '$' then
    skip 1
    return some (← fieldToken)
  else if "+-*%^[]~=!<>|?:".toList.contains c then sign (String.singleton c)
  else
    skip 1
    return some (.unexpected c)

/-- Read the next token.  The first argument bounds what is left out before it. -/
def scan : Nat → Reader Token
  | 0 => return .finish
  | n + 1 => do
    let _ ← takeWhile isBlank
    modify fun r => { r with tokenLine := r.line }
    match ← peekChar with
    | none => return .finish
    | some '\n' =>
      skip 1
      countLine
      passAllLines
      return .lineEnd
    | some '#' =>
      passComment
      scan n
    | some '\\' =>
      if ← joinsLines then scan n
      else
        skip 1
        return .unexpected '\\'
    | some '"' =>
      skip 1
      textToken (← bound) []
    | some c =>
      if isLetter c then wordToken
      else if c.isDigit || c == '.' then
        match ← numberText with
        | some s => return .number s
        | none =>
          skip 1
          return .unexpected '.'
      else
        match ← signToken c with
        | some t => return t
        | none => scan n

/-- The next token, which stays to be used. -/
def peek : Reader Token := do
  match (← get).ahead with
  | some t => return t
  | none =>
    let t ← scan (← bound)
    modify fun r => { r with ahead := some t, last := t }
    return t

/-- Use the next token. -/
def next : Reader Token := do
  let t ← peek
  modify fun r => { r with ahead := none, quiet := r.quiet - 1 }
  return t

/-- Say that the next token does not fit, and stop. -/
def unfit {α : Type} : Reader α := do
  let t ← peek
  let r ← get
  if r.quiet == 0 then
    match t with
    | .unexpected c =>
      let shown :=
        if ' ' < c && c < '\x7f' then "'" ++ String.singleton c ++ "'"
        else "0x" ++ Raw.padLeft 2 '0' (Raw.inBase 16 c.toNat)
      report (toString r.tokenLine ++ ": unexpected character " ++ shown)
    | _ =>
      if t.isEnd && r.parentheses != 0 then complain ("missing ) near " ++ t.shown)
      else if t == .finish && r.braces != 0 then complain "missing \x7d near end of file"
      else complain ("syntax error at or near " ++ t.shown)
  modify fun r => { r with quiet := 3, printing := false, naming := false, listing := false }
  throw .unfit

/-- Use the next token, which has to be a given one. -/
def expect (t : Token) : Reader Unit := do
  if (← peek) == t then
    let _ ← next
  else unfit

/-- Use the next token if it is a given one, and say whether it is. -/
def accept (t : Token) : Reader Bool := do
  if (← peek) == t then
    let _ ← next
    return true
  return false

end Reader

end MonitorKeys.Shell.Tool.Awk
