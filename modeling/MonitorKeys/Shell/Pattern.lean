import MonitorKeys.Regex
import MonitorKeys.Shell.Raw

/-!
# Regular expressions of the text programs

The programs `grep`, `sed` and `expr` take regular expressions in two notations: in the basic one
the signs for groups, alternatives and numbers have a backslash, in the extended one they have none.
`Pattern.read` gives the expression for a text, with the number of its groups, or what is wrong.
-/

namespace MonitorKeys.Shell.Pattern

/-- How expressions are written. -/
structure Notation where
  extended : Bool := false
  /-- Whether signs that make no sense where they stand are passed over or stand for themselves. -/
  lenient : Bool := false
  /-- Whether letters behind a backslash can stand for other characters. -/
  escapes : Bool := false
  /-- Whether upper and lower case are the same. -/
  anyCase : Bool := false
  /-- Whether the signs for the ends of a text stand for those of its lines. -/
  byLine : Bool := false
  /-- Whether a range whose ends stand the other way round is empty, and not wrong. -/
  emptyRanges : Bool := false
  deriving Repr

/-- What can be wrong with an expression. -/
inductive Mistake where
  | invalid
  | openBracket
  | openGroup
  | closedGroup
  | openInterval
  | interval
  | nothingBefore
  | reference
  | backslash
  | rangeEnd
  | className
  | tooBig
  /-- A class that lacks its brackets. -/
  | bareClass (text : String)
  deriving DecidableEq, Repr

/-- The words for a mistake. -/
def Mistake.text : Mistake → String
  | invalid => "Invalid regular expression"
  | openBracket => "Unmatched [, [^, [:, [., or [="
  | openGroup => "Unmatched ( or \\("
  | closedGroup => "Unmatched ) or \\)"
  | openInterval => "Unmatched \\\x7b"
  | interval => "Invalid content of \\\x7b\\\x7d"
  | nothingBefore => "Invalid preceding regular expression"
  | reference => "Invalid back reference"
  | backslash => "Trailing backslash"
  | rangeEnd => "Invalid range end"
  | className => "Invalid character class name"
  | tooBig => "Regular expression too big"
  | bareClass text => "character class syntax is [[" ++ text ++ "]], not [" ++ text ++ "]"

/-- What is left of an expression, the groups that were opened, and those that were closed. -/
structure Progress where
  rest : List Char
  opened : Nat := 0
  closed : List Nat := []
  /-- The signs that were passed over. -/
  passed : List String := []

/-- A reader of a part of an expression. -/
abbrev Read := EStateM Mistake Progress

/-- Whether a text comes next, which is passed then. -/
def accept (s : String) : Read Bool :=
  modifyGet fun p =>
    if s.toList.isPrefixOf p.rest then (true, { p with rest := p.rest.drop s.length })
    else (false, p)

/-- Whether a text comes next. -/
def sees (s : String) : Read Bool := do
  return s.toList.isPrefixOf (← get).rest

/-- The text of a sign that has a backslash in the basic notation only. -/
def Notation.sign (form : Notation) (s : String) : String :=
  if form.extended then s else "\\" ++ s

/-- The set of one character. -/
def Notation.single (form : Notation) (c : Char) : CharSet :=
  if form.anyCase && c.isAlpha then .anyCase (.single c) else .single c

/-! ## Escapes -/

/-- The characters that letters stand for behind a backslash. -/
def controls : List (Char × Char) :=
  [('a', '\x07'), ('f', '\x0c'), ('n', '\n'), ('r', '\r'), ('t', '\t'), ('v', '\x0b')]

/-- The character that the text behind a backslash stands for, and the text after it. -/
def escape? (cs : List Char) : Option (Char × List Char) :=
  let byte (base count : Nat) (rest : List Char) : Option (Char × List Char) :=
    let isDigit (c : Char) := (Raw.digits? base [c]).isSome
    let ds := (rest.take count).takeWhile isDigit
    (Raw.digits? base ds).map fun n => (Char.ofNat (n % 256), rest.drop ds.length)
  match cs with
  | 'x' :: rest => byte 16 2 rest
  | 'o' :: rest => byte 8 3 rest
  | 'd' :: rest => byte 10 3 rest
  | 'c' :: c :: rest => some (Char.ofNat (c.toUpper.toNat ^^^ 64), rest)
  | c :: rest => (controls.lookup c).map (·, rest)
  | [] => none

/-- The sets of characters that letters stand for behind a backslash. -/
def sets : List (Char × CharSet) :=
  [('w', .wordChars), ('W', .complement .wordChars), ('s', .blanks), ('S', .complement .blanks)]

/-- The conditions on places that signs stand for behind a backslash. -/
def anchors : List (Char × Anchor) :=
  [('b', .wordEdge), ('B', .noWordEdge), ('<', .wordStart), ('>', .wordEnd), ('\x60', .textStart),
   ('\'', .textEnd)]

/-! ## Brackets -/

/-- The text between `[` with a sign and the same sign with `]`, and the text after it; the first
sign has been passed. -/
def named? (sign : Char) (cs : List Char) : Option (String × List Char) :=
  let rec go : List Char → List Char → Option (String × List Char)
    | c :: ']' :: rest, taken =>
      if c == sign then some (String.ofList taken.reverse, rest) else go (']' :: rest) (c :: taken)
    | c :: rest, taken => go rest (c :: taken)
    | [], _ => none
  go cs []

/-- One end of a range in brackets. -/
def rangeEnd (form : Notation) : Read Char := do
  match (← get).rest with
  | '[' :: '.' :: rest =>
    match named? '.' rest with
    | some (name, after) =>
      modify fun p => { p with rest := after }
      match name.toList with
      | [c] => return c
      | _ => throw .rangeEnd
    | none => throw .openBracket
  | '\\' :: rest =>
    match if form.escapes then escape? rest else none with
    | some (c, after) =>
      modify fun p => { p with rest := after }
      return c
    | none =>
      modify fun p => { p with rest }
      return '\\'
  | c :: rest =>
    modify fun p => { p with rest }
    return c
  | [] => throw .openBracket

/-- One member of a bracket: a class, a character, or a range. -/
def member (form : Notation) : Read CharSet := do
  match (← get).rest with
  | '[' :: ':' :: rest =>
    match named? ':' rest with
    | none => throw .openBracket
    | some (name, after) =>
      modify fun p => { p with rest := after }
      match CharSet.ofName? name with
      | some set =>
        return if form.anyCase && (name == "upper" || name == "lower") then .anyCase set else set
      | none => throw .className
  | '[' :: '=' :: rest =>
    match named? '=' rest with
    | none => throw .openBracket
    | some (name, after) =>
      modify fun p => { p with rest := after }
      return .ofList name.toList
  | _ =>
    let first ← rangeEnd form
    match (← get).rest with
    | '-' :: ']' :: _ => return form.single first
    | '-' :: rest =>
      modify fun p => { p with rest }
      let last ← rangeEnd form
      if last < first && !form.emptyRanges then throw .rangeEnd
      let set := CharSet.ranges [(first, last)]
      return if form.anyCase then .anyCase set else set
    | _ => return form.single first

/-- The members of a bracket up to its end.  The first argument bounds their number. -/
def members (form : Notation) : Nat → Bool → CharSet → Read CharSet
  | 0, _, _ => throw .openBracket
  | n + 1, started, soFar => do
    if (← get).rest.isEmpty then throw .openBracket
    if started && (← accept "]") then return soFar
    members form n true (.union soFar (← member form))

/-- The set for a bracket, the first sign of which has been passed. -/
def bracket (form : Notation) : Read CharSet := do
  let whole := (← get).rest
  if form.lenient && whole.head? == some ':' then
    let inner := whole.takeWhile (· != ']')
    if 2 < inner.length && inner.getLast? == some ':' && inner.length < whole.length then
      throw (.bareClass (String.ofList inner))
  if whole.isEmpty then throw .invalid
  let negated ← accept "^"
  if (← get).rest.isEmpty then throw .invalid
  let set ← members form (whole.length + 1) false .none
  return if negated then .complement set else set

/-! ## Pieces -/

/-- The greatest number of times that can be asked for. -/
def mostTimes : Nat := 32767

/-- A number that comes next. -/
def number : Read (Option Nat) :=
  modifyGet fun p =>
    let ds := p.rest.takeWhile Char.isDigit
    (Raw.digits? 10 ds, { p with rest := p.rest.drop ds.length })

/-- The numbers of an interval, the first sign of which has been passed. -/
def interval (form : Notation) : Read (Nat × Option Nat) := do
  let least ← number
  let hasComma ← accept ","
  let most ← if hasComma then number else pure least
  if ← accept (form.sign "\x7d") then
    match least, most with
    | none, none => if hasComma then return (0, none) else throw .interval
    | some m, none => return (m, none)
    | none, some n => return (0, some n)
    | some m, some n =>
      if n < m then throw .interval
      if mostTimes < n then throw .tooBig
      return (m, some n)
  else if (← get).rest.isEmpty then throw .openInterval
  else throw .interval

/-- Signs that say how often the expression before them is repeated, and whether there is one. -/
def repetition? (form : Notation) : Read (Option (Nat × Option Nat)) := do
  if ← accept "*" then return some (0, none)
  else if ← accept (form.sign "+") then return some (1, none)
  else if ← accept (form.sign "?") then return some (0, some 1)
  else
    let before ← get
    if ← accept (form.sign "\x7b") then
      if form.extended && form.lenient then
        match (interval form).run (← get) with
        | .ok found after =>
          set after
          return some found
        | .error .openInterval _ | .error .interval _ =>
          if ((← get).rest.takeWhile fun c => c.isDigit || c == ',').isEmpty
              || !((← get).rest.contains '\x7d') then
            set before
            return none
          throw .interval
        | .error e _ => throw e
      else return some (← interval form)
    else return none

/-- An expression with the signs for its repetition behind it.  The first argument bounds their
number. -/
def repeated (form : Notation) : Nat → Regex → Read Regex
  | 0, r => return r
  | n + 1, r => do
    match ← repetition? form with
    | some (least, most) => repeated form n (.times r least most)
    | none => return r

/-- Whether the end of a branch comes next. -/
def atEnd (form : Notation) : Read Bool := do
  return (← get).rest.isEmpty || (← sees (form.sign "|")) || (← sees (form.sign ")"))

/-- What a backslash that has been passed begins. -/
def escaped (form : Notation) : Read Regex := do
  let p ← get
  match p.rest with
  | [] => throw .backslash
  | c :: rest =>
    match if form.escapes then escape? p.rest else none with
    | some (d, after) =>
      set { p with rest := after }
      return .one (form.single d)
    | none =>
      set { p with rest }
      if c.isDigit && c != '0' then
        let n := c.toNat - '0'.toNat
        if !p.closed.contains n then throw .reference
        return .again n form.anyCase
      match sets.lookup c, anchors.lookup c with
      | some s, _ => return .one s
      | none, some a => return .anchor a
      | none, none => return .one (form.single c)

/-- A group, the first sign of which has been passed. -/
def group (form : Notation) (inner : Read Regex) : Read Regex := do
  let n ← modifyGet fun p => (p.opened + 1, { p with opened := p.opened + 1 })
  let body ← inner
  unless ← accept (form.sign ")") do throw .openGroup
  modify fun p => { p with closed := n :: p.closed }
  return .group n body

/-- One piece of a branch without its repetition; `first` says that the branch begins with it. -/
def atom (form : Notation) (inner : Read Regex) (first : Bool) : Read Regex := do
  if ← accept (form.sign "(") then group form inner
  else if ← accept "[" then return .one (← bracket form)
  else if ← accept "." then return .one .all
  else if first || form.extended then
    if ← accept "^" then return .anchor (if form.byLine then .lineStart else .textStart)
    other
  else other
where
  /-- Any other character. -/
  other : Read Regex := do
    if ← accept "$" then
      if form.extended || (← atEnd form) then
        return .anchor (if form.byLine then .lineEnd else .textEnd)
      return .one (.single '$')
    else if ← accept "\\" then escaped form
    else
      match (← get).rest with
      | [] => return .empty
      | c :: rest =>
        modify fun p => { p with rest }
        return .one (form.single c)

/-- Pass signs for repetition that stand at the start of a branch, where they are not to be
repeated; in the basic notation a star there stands for itself. -/
def passRepetition (form : Notation) : Nat → Read Unit
  | 0 => return
  | n + 1 => do
    let before ← get
    if !form.extended && (← sees "*") then return
    match ← repetition? form with
    | none => return
    | some _ =>
      if !form.lenient then throw .nothingBefore
      let sign := match before.rest.head? with
        | some '\x7b' => "\x7b...\x7d"
        | some c => String.singleton c
        | none => ""
      modify fun p => { p with passed := p.passed ++ [sign] }
      passRepetition form n

/-- Whether a piece is a condition on the place where the branch begins. -/
def isStart (r : Regex) : Bool :=
  r == .anchor .textStart || r == .anchor .lineStart

/-- The pieces of a branch.  The first argument bounds their number. -/
def pieces (form : Notation) (inner : Read Regex) : Nat → Bool → Regex → Read Regex
  | 0, _, soFar => return soFar
  | n + 1, first, soFar => do
    if first then passRepetition form (n + 1)
    if ← atEnd form then
      if form.lenient && form.extended && (← sees ")") && (← get).opened == (← get).closed.length
      then
        modify fun p => { p with rest := p.rest.tail }
        let r ← repeated form n (.one (.single ')'))
        pieces form inner n false (.seq soFar r)
      else return soFar
    else if first && !form.extended && (← accept "*") then
      let r ← repeated form n (.one (.single '*'))
      pieces form inner n false (.seq soFar r)
    else
      let piece ← atom form inner first
      if first && isStart piece then
        pieces form inner n true (.seq soFar piece)
      else
        let r ← repeated form n piece
        pieces form inner n false (.seq soFar r)

/-- Branches of which one has to match, given those before. -/
def branches (form : Notation) (branch : Read Regex) : Nat → Regex → Read Regex
  | 0, soFar => return soFar
  | n + 1, soFar => do
    if ← accept (form.sign "|") then branches form branch n (.alt soFar (← branch))
    else return soFar

/-- An expression up to its end, or to the end of the group that it stands in.  The first argument
bounds the depth of groups. -/
def expression (form : Notation) : Nat → Read Regex
  | 0 => throw .openGroup
  | n + 1 => do
    let bound := (← get).rest.length + 1
    let branch := pieces form (expression form n) bound true .empty
    branches form branch bound (← branch)

/-- An expression that was read. -/
structure Result where
  regex : Regex
  groups : Nat
  passed : List String

/-- The expression that a text writes, or what is wrong with it. -/
def read (form : Notation) (s : String) : Except Mistake Result :=
  let whole : Read Regex := do
    let r ← expression form (s.length + 1)
    unless (← get).rest.isEmpty do throw .closedGroup
    return r
  match whole.run { rest := s.toList } with
  | .ok regex p => .ok ⟨regex, p.opened, p.passed⟩
  | .error e _ => .error e

end MonitorKeys.Shell.Pattern
