import MonitorKeys.Regex
import MonitorKeys.Shell.Tool.Awk.Number

/-!
# Expressions and separators of the pattern language

Regular expressions are written here in the extended notation, with escapes as in texts.  They match
lines and fields, and they can separate records and fields from each other.  A separator of one
character stands for itself.
-/

namespace MonitorKeys.Shell.Tool.Awk

/-! ## Escapes -/

/-- The characters that letters stand for behind a backslash. -/
def letters : List (Char × Char) :=
  [('"', '"'), ('\\', '\\'), ('a', '\x07'), ('b', '\x08'), ('f', '\x0c'), ('n', '\n'), ('r', '\r'),
   ('t', '\t'), ('v', '\x0b')]

/-- The character that the text behind a backslash stands for, and the text after it. -/
def escape? (cs : List Char) : Option (Char × List Char) :=
  let byte (base count : Nat) (cs : List Char) : Option (Char × List Char) :=
    let ds := (cs.take count).takeWhile fun c => (Raw.digits? base [c]).isSome
    (Raw.digits? base ds).map fun n => (Char.ofNat (n % 256), cs.drop ds.length)
  match cs with
  | [] => none
  | 'x' :: rest => byte 16 2 rest
  | c :: rest =>
    match letters.lookup c with
    | some d => some (d, rest)
    | none => byte 8 3 cs

/-- A text with its escapes replaced; a backslash that begins none stays.  The first argument bounds
the number of steps. -/
def unescapeFrom : Nat → List Char → List Char → List Char
  | 0, _, out => out.reverse
  | _, [], out => out.reverse
  | n + 1, '\\' :: cs, out =>
    match escape? cs with
    | some (c, rest) => unescapeFrom n rest (c :: out)
    | none => unescapeFrom n cs ('\\' :: out)
  | n + 1, c :: cs, out => unescapeFrom n cs (c :: out)

/-- A text with its escapes replaced. -/
def unescape (s : String) : String :=
  String.ofList (unescapeFrom (s.length + 1) s.toList [])

/-! ## Reading expressions -/

/-- What can be wrong with an expression. -/
inductive Fault where
  | openGroup
  | brackets
  | noOperand
  | tooLarge
  | repeatedStart
  | interval
  deriving DecidableEq, Repr

/-- The words for what is wrong. -/
def Fault.text : Fault → String
  | openGroup => "missing ')'"
  | brackets => "bad class -- [], [^] or ["
  | noOperand => "missing operand"
  | tooLarge => "resource exhaustion -- regular expression too large"
  | repeatedStart => "syntax error ^* or ^+"
  | interval => "bad interval expression"

/-- A reader of a part of an expression, which leaves the text after it. -/
abbrev Scan := StateT (List Char) (Except Fault)

namespace Scan

/-- Whether a sign comes next, which is passed then. -/
def accept (c : Char) : Scan Bool :=
  modifyGet fun cs => if cs.head? == some c then (true, cs.tail) else (false, cs)

/-- One character in brackets. -/
def member : Scan Char := do
  match ← get with
  | [] => throw .brackets
  | '\\' :: rest =>
    match escape? rest, rest with
    | some (c, rest), _ =>
      set rest
      return c
    | none, c :: rest =>
      set rest
      return c
    | none, [] => throw .brackets
  | c :: rest =>
    set rest
    return c

/-- The members of brackets up to their end.  The first argument bounds their number. -/
def members : Nat → Bool → CharSet → Scan CharSet
  | 0, _, _ => throw .brackets
  | n + 1, first, soFar => do
    match ← get with
    | [] => throw .brackets
    | ']' :: rest =>
      if first then
        set rest
        members n false (.union soFar (.single ']'))
      else
        set rest
        return soFar
    | '[' :: ':' :: rest =>
      let name := rest.takeWhile Char.isAlpha
      match rest.drop name.length with
      | ':' :: ']' :: after =>
        match CharSet.ofName? (String.ofList name) with
        | some s =>
          set after
          members n false (.union soFar s)
        | none => throw .brackets
      | _ =>
        set (':' :: rest)
        members n false (.union soFar (.single '['))
    | _ =>
      let low ← member
      match ← get with
      | '-' :: c :: rest =>
        if c == ']' || c == '[' && rest.head? == some ':' then
          members n false (.union soFar (.single low))
        else
          set (c :: rest)
          let high ← member
          -- A range whose ends stand the other way round is no range.
          let found := if high < low then CharSet.ofList [low, '-', high] else .ranges [(low, high)]
          members n false (.union soFar found)
      | _ => members n false (.union soFar (.single low))

/-- The set that brackets write, the first one of which has been passed. -/
def brackets : Scan CharSet := do
  let negated ← accept '^'
  let set ← members ((← get).length + 1) true .none
  return if negated then .complement set else set

/-- The numbers of an interval, if one comes next. -/
def interval? : Scan (Option (Nat × Option Nat)) := do
  match ← get with
  | '\x7b' :: rest =>
    let inner := rest.takeWhile (· != '\x7d')
    if inner.length == rest.length || !inner.all (fun c => c.isDigit || c == ',') then return none
    let low := inner.takeWhile Char.isDigit
    let high := inner.drop low.length
    let number (ds : List Char) : Option Nat := Raw.digits? 10 ds
    set (rest.drop (inner.length + 1))
    match high with
    | [] =>
      match number low with
      | some n => return some (n, some n)
      | none => throw .interval
    | _ :: high =>
      let least := (number low).getD 0
      match number high with
      | some most =>
        if most < least then throw .interval
        return some (least, if 2 ≤ least then some least else some most)
      | none => return some (least, if 2 ≤ least then some least else none)
  | _ => return none

/-- An expression with the signs for its repetition behind it.  The first argument bounds their
number. -/
def repeated (isStart : Bool) : Nat → Regex → Scan Regex
  | 0, r => return r
  | n + 1, r => do
    if ← accept '*' then
      if isStart then throw .repeatedStart
      repeated isStart n (.times r 0 none)
    else if ← accept '+' then
      if isStart then throw .repeatedStart
      repeated isStart n (.times r 1 none)
    else if ← accept '?' then repeated isStart n (.times r 0 (some 1))
    else
      match ← interval? with
      | some (least, most) => repeated isStart n (.times r least most)
      | none => return r

/-- What a character that has been passed stands for, where it has no other meaning. -/
def plain (c : Char) : Scan Regex := do
  if c == '\\' then
    match ← get with
    | [] => return .one (.single '\\')
    | d :: rest =>
      match escape? (d :: rest) with
      | some (e, after) =>
        set after
        return .one (.single e)
      | none =>
        set rest
        return .one (.single d)
  else return .one (.single c)

/-- The alternatives of an expression, or of a group in it.  `lenient` says that empty alternatives
are allowed.  The first argument bounds the number of steps. -/
def alternatives : Nat → Nat → Bool → Scan Regex
  | 0, _, _ => throw .tooLarge
  | n + 1, depth, lenient => do
    let first ← branch n depth lenient .empty true
    if ← accept '|' then return .alt first (← alternatives n depth lenient)
    return first
where
  /-- The pieces of an alternative behind those that were read. -/
  branch (n depth : Nat) (lenient : Bool) (soFar : Regex) (isEmpty : Bool) : Scan Regex :=
    match n with
    | 0 => throw .tooLarge
    | n + 1 => do
      let finish : Scan Regex := do
        if isEmpty && !lenient then throw .noOperand
        return soFar
      match ← get with
      | [] =>
        if depth != 0 then throw .openGroup
        finish
      | '|' :: _ => finish
      | c :: rest =>
        if c == ')' && depth != 0 then finish
        else if c == '*' || c == '+' || c == '?' then
          if lenient then
            set rest
            branch n depth lenient soFar isEmpty
          else throw .noOperand
        else
          if c == '\x7b' && isEmpty then
            if (← interval?).isSome then throw .tooLarge
          set rest
          let piece ←
            if c == '(' then do
              let body ← alternatives n (depth + 1) (!isEmpty)
              unless ← accept ')' do throw .openGroup
              pure body
            else if c == '[' then do pure (Regex.one (← brackets))
            else if c == '.' then pure (.one .all)
            else if c == '^' then pure (.anchor .textStart)
            else if c == '$' then pure (.anchor .textEnd)
            else plain c
          let piece ← repeated (c == '^') n piece
          branch n depth lenient (.seq soFar piece) false

end Scan

/-- The expression that a text writes. -/
def readRegex (s : String) : Except Fault Regex :=
  if s.isEmpty then .ok .empty
  else
    match (Scan.alternatives (2 * s.length + 2) 0 false).run s.toList with
    | .ok (r, _) => .ok r
    | .error e => .error e

/-! ## Separators -/

/-- What stands between the parts of a text. -/
inductive Separator where
  /-- Blanks, which do not count at the ends. -/
  | blanks
  /-- Nothing: every character is a part. -/
  | nothing
  | sign (c : Char)
  | regex (r : Regex)
  deriving Repr

/-- The parts of a text between the matches of an expression that are not empty.  The first argument
bounds their number. -/
def splitAt (r : Regex) (text : Array Char) : Nat → Nat → Nat → List String
  | 0, start, _ => [String.ofList (text.extract start text.size).toList]
  | n + 1, start, place =>
    match r.find? text place with
    | none => [String.ofList (text.extract start text.size).toList]
    | some m =>
      if m.start == m.stop then
        if text.size ≤ m.stop then [String.ofList (text.extract start text.size).toList]
        else splitAt r text n start (m.stop + 1)
      else
        String.ofList (text.extract start m.start).toList :: splitAt r text n m.stop m.stop

/-- The parts of a text. -/
def Separator.split (separator : Separator) (s : String) : List String :=
  if s.isEmpty then []
  else
    match separator with
    | .blanks =>
      let parts := s.toList.splitOnP isSpace
      (parts.filter (!·.isEmpty)).map String.ofList
    | .nothing => s.toList.map String.singleton
    | .sign c => s.splitOn (String.singleton c)
    | .regex r => splitAt r s.toList.toArray (s.length + 1) 0 0

/-! ## Substitution -/

/-- What is put in the place of a match: backslashes in front of an ampersand count half, and an
odd one makes it stand for itself.  The second argument counts the backslashes before. -/
def replacement (found : List Char) : List Char → Nat → List Char
  | [], slashes => List.replicate slashes '\\'
  | '\\' :: cs, slashes => replacement found cs (slashes + 1)
  | '&' :: cs, slashes =>
    List.replicate (slashes / 2) '\\'
      ++ (if slashes % 2 == 0 then found else ['&']) ++ replacement found cs 0
  | c :: cs, slashes => List.replicate slashes '\\' ++ c :: replacement found cs 0

/-- A text with all matches from a place on replaced, and how many there were; an empty match does
not count right behind another one.  The first argument bounds the number of steps. -/
def substituteFrom (r : Regex) (by_ : List Char) (text : Array Char) :
    Nat → Nat → Bool → List Char × Nat
  | 0, place, _ => ((text.extract place text.size).toList, 0)
  | n + 1, place, justMatched =>
    match r.find? text place with
    | none => ((text.extract place text.size).toList, 0)
    | some m =>
      let before := (text.extract place m.start).toList
      let found := (text.extract m.start m.stop).toList
      if m.start == m.stop then
        let (new, count) : List Char × Nat :=
          if justMatched && m.start == place then ([], 0) else (replacement found by_ 0, 1)
        match text[m.start]? with
        | none => (before ++ new, count)
        | some c =>
          let (rest, more) := substituteFrom r by_ text n (m.start + 1) false
          (before ++ new ++ c :: rest, count + more)
      else
        let (rest, more) := substituteFrom r by_ text n m.stop true
        (before ++ replacement found by_ 0 ++ rest, more + 1)

/-- A text with its first match or all of them replaced, and how many there were. -/
def substituted (everywhere : Bool) (r : Regex) (by_ s : String) : String × Nat :=
  let text := s.toList.toArray
  if everywhere then
    let (out, count) := substituteFrom r by_.toList text (2 * text.size + 2) 0 false
    (String.ofList out, count)
  else
    match r.find? text with
    | none => (s, 0)
    | some m =>
      let before := (text.extract 0 m.start).toList
      let found := (text.extract m.start m.stop).toList
      let after := (text.extract m.stop text.size).toList
      (String.ofList (before ++ replacement found by_.toList 0 ++ after), 1)

end MonitorKeys.Shell.Tool.Awk
