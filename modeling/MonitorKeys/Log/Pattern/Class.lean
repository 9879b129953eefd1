import MonitorKeys.Log.Pattern.Escape

/-!
# Classes in patterns

A class lists its members in brackets: characters, ranges, classes by name, and other classes in
brackets.  Three operators take the common members, the difference, and those on one side only.
-/

namespace MonitorKeys.Log.Node

/-- One character or escape in brackets, and where it stands. -/
def member : Reader (Node × Span) := do
  let start ← here
  let node ←
    if ← nextIs '\\' then escape
    else do
      let c := (← peek?).getD ' '
      let _ ← bump
      pure (.char c false ⟨start, start + 1⟩)
  return (node, ⟨start, ← here⟩)

/-- A character or escape as a member of a class. -/
def asMembers (item : Node × Span) : Reader Members :=
  match item with
  | (.char c isByte span, _) => return .char c isByte span
  | (.members m, _) => return m
  | (_, span) => fail .classEscape span.start span.stop

/-- A character as the end of a range. -/
def asRangeEnd (item : Node × Span) : Reader (Char × Members) :=
  match item with
  | (.char c isByte span, _) => return (c, .char c isByte span)
  | (_, span) => fail .classRangeEnd span.start span.stop

/-- One member of a class or a range; `opening` is where the class begins. -/
def memberOrRange (opening : Span) : Reader Members := do
  let first ← member
  bumpSpace
  if (← peek?).isNone then fail .classUnclosed opening.start opening.stop
  let beyond ← peekBeyond?
  if !(← nextIs '-') || beyond == some ']' || beyond == some '-' then asMembers first
  else
    if !(← bumpOn) then fail .classUnclosed opening.start opening.stop
    let last ← member
    let (a, firstEnd) ← asRangeEnd first
    let (b, lastEnd) ← asRangeEnd last
    if b < a then fail .classRange first.2.start last.2.stop
    return .between firstEnd lastEnd

/-- The names of classes between colons. -/
def classNamed? (name : String) : Option CharSet :=
  if name = "ascii" then some (.ranges [('\x00', '\x7f')])
  else if name = "word" then some .wordChars
  else CharSet.ofName? name

/-- A class by its name between colons, where there is one. -/
def namedClass? : Reader (Option Members) := do
  let start ← here
  let pattern ← read
  let negated := pattern[start + 2]? == some '^'
  let nameStart := if negated then start + 3 else start + 2
  if pattern[start + 1]? != some ':' then return none
  let name := (pattern.toList.drop nameStart).takeWhile (· != ':')
  let stop := nameStart + name.length
  if pattern[stop]? != some ':' || pattern[stop + 1]? != some ']' then return none
  match classNamed? (String.ofList name) with
  | none => return none
  | some set =>
    modify fun p => { p with place := stop + 2 }
    return some (.named set negated ⟨start, stop + 2⟩)

/-- The operator between two parts of a class that comes next. -/
def classOperator? : Reader (Option (Members → Members → Members)) := do
  if ← bumpIf "&&" then return some .inter
  if ← bumpIf "--" then return some .diff
  if ← bumpIf "~~" then return some .either
  return none

/-- The hyphens at the start of a class. -/
def leadingHyphens (start : Nat) : Nat → Members → Reader Members
  | 0, soFar => return soFar
  | n + 1, soFar => do
    if ← nextIs '-' then
      let span ← spanHere
      if !(← bumpOn) then fail .classUnclosed start start
      leadingHyphens start n (.union soFar (.char '-' false span))
    else return soFar

/-- The opening of a class: where it stands, whether it is negated, and the members that only the
opening takes as themselves. -/
def classOpening : Reader (Span × Bool × Members) := do
  let bound := (← read).size
  let start ← here
  if !(← bumpOn) then fail .classUnclosed start (← here)
  let negated ← nextIs '^'
  if negated then
    if !(← bumpOn) then fail .classUnclosed start (← here)
  let hyphens ← leadingHyphens start bound .nothing
  if hyphens == .nothing && (← nextIs ']') then
    let span ← spanHere
    if !(← bumpOn) then fail .classUnclosed start (← here)
    return (⟨start, ← here⟩, negated, .char ']' false span)
  return (⟨start, ← here⟩, negated, hyphens)

/-- The rest of a class in brackets, given where its opening stands, whether it is negated, what
the members so far are combined with, and these members.  The first argument bounds the number of
steps. -/
def classMembers : Nat → Span → Bool → (Members → Members) → Members → Reader Members
  | 0, opening, _, _, _ => fail .classUnclosed opening.start opening.stop
  | n + 1, opening, negated, before, soFar => do
    bumpSpace
    match ← peek? with
    | none => fail .classUnclosed opening.start opening.stop
    | some '[' =>
      match ← namedClass? with
      | some m => classMembers n opening negated before (.union soFar m)
      | none =>
        let (inside, insideNegated, first) ← classOpening
        let m ← classMembers n inside insideNegated id first
        classMembers n opening negated before (.union soFar m)
    | some ']' =>
      let _ ← bump
      return .bracketed negated (before soFar) ⟨opening.start, ← here⟩
    | some _ =>
      match ← classOperator? with
      | some op => classMembers n opening negated (op (before soFar)) .nothing
      | none =>
        let m ← memberOrRange opening
        classMembers n opening negated before (.union soFar m)

/-- A class in brackets. -/
def bracketed : Reader Members := do
  let bound := (← read).size
  let (opening, negated, first) ← classOpening
  classMembers (bound + 1) opening negated id first

end MonitorKeys.Log.Node
