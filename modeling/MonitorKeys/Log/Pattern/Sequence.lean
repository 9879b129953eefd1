import MonitorKeys.Log.Pattern.Class
import MonitorKeys.Power

/-!
# Sequences and alternatives in patterns

The parts of a pattern follow each other, and a repetition acts on the part before it.  A group
holds alternatives of its own, or nothing but flags for what follows.

`Node.read?` reads a whole pattern.
-/

namespace MonitorKeys.Log.Node

/-! ## Repetitions -/

/-- The digits that come next. -/
def decimalDigits : Nat → List Char → Reader (List Char)
  | 0, passed => return passed.reverse
  | n + 1, passed => do
    match ← peek? with
    | some c =>
      if c.isDigit then
        let _ ← bumpOn
        decimalDigits n (c :: passed)
      else return passed.reverse
    | none => return passed.reverse

/-- Pass blanks. -/
def passBlanks : Nat → Reader Unit
  | 0 => return
  | n + 1 => do
    if (← peek?).any Text.isBlank then
      let _ ← bump
      passBlanks n

/-- A number, or what is wrong with it. -/
def decimal : Reader (Except Mistake Nat) := do
  let bound := (← read).size
  passBlanks bound
  let start ← here
  let digits ← decimalDigits bound []
  let stop ← here
  passBlanks bound
  if digits.isEmpty then return .error ⟨.countEmpty, ⟨start, stop⟩, none⟩
  let value := digits.foldl (fun n c => n * 10 + (c.toNat - '0'.toNat)) 0
  if 2 ^ 32 ≤ value then return .error ⟨.decimalInvalid, ⟨start, stop⟩, none⟩
  return .ok value

/-- The value of a number that was read, or its mistake. -/
def valueOf (n : Except Mistake Nat) : Reader Nat :=
  match n with
  | .ok n => return n
  | .error m => throw m

/-- The last of the parts read so far, where something can be repeated. -/
def repeatable (parts : List Node) : Reader (Node × List Node) :=
  match parts with
  | [] | .empty :: _ | .flags _ :: _ => failHere .nothingToRepeat
  | part :: parts => return (part, parts)

/-- Pass a question mark behind a repetition, which asks for few instead of many. -/
def passLazy (more : Bool) : Reader Unit := do
  if more && (← nextIs '?') then
    let _ ← bump

/-- A repetition by a sign. -/
def signRepetition (parts : List Node) (least : Nat) (most : Option Nat) :
    Reader (List Node) := do
  let (part, parts) ← repeatable parts
  passLazy (← bump)
  return .times part least most :: parts

/-- A repetition by numbers in braces. -/
def countedRepetition (parts : List Node) : Reader (List Node) := do
  let start ← here
  let (part, parts) ← repeatable parts
  if !(← bumpOn) then fail .countUnclosed start (← here)
  let first ← decimal
  if (← peek?).isNone then fail .countUnclosed start (← here)
  let (least, most) ←
    if ← nextIs ',' then do
      if !(← bumpOn) then fail .countUnclosed start (← here)
      let least ← valueOf first
      if ← nextIs '\x7d' then pure (least, none)
      else do
        let most ← valueOf (← decimal)
        pure (least, some most)
    else do
      let least ← valueOf first
      pure (least, some least)
  if !(← nextIs '\x7d') then fail .countUnclosed start (← here)
  passLazy (← bumpOn)
  if most.any (· < least) then fail .countRange start (← here)
  return .times part least most :: parts

/-! ## Groups -/

/-- The rest of the flags of a group, given those before and where they stand. -/
def flagChanges : Nat → Bool → List (Char × Nat) → List FlagChange → Reader (List FlagChange)
  | 0, _, _, _ => failHere .flagEnd
  | n + 1, taken, seen, soFar => do
    match ← peek? with
    | none => failHere .flagEnd
    | some c =>
      if c == ':' || c == ')' then
        match seen with
        | ('-', place) :: _ => fail .flagDangling place (place + 1)
        | _ => return soFar.reverse
      else
        let place ← here
        if c != '-' && !"imsUuRx".toList.contains c then failNext .flagUnknown
        match seen.lookup c with
        | some first =>
          throw ⟨if c == '-' then .flagNegatedTwice else .flagTwice, ⟨place, place + 1⟩,
            some ⟨first, first + 1⟩⟩
        | none =>
          if !(← bump) then failHere .flagEnd
          if c == '-' then flagChanges n true ((c, place) :: seen) soFar
          else flagChanges n taken ((c, place) :: seen) ((c, !taken) :: soFar)

/-- Whether a character may stand in the name of a group. -/
def isNameChar (first : Bool) (c : Char) : Bool :=
  c == '_' || c.isAlpha || 0x80 ≤ c.toNat
    || !first && (c.isDigit || c == '.' || c == '[' || c == ']')

/-- Pass the characters of the name of a group; where the name ends. -/
def nameEnd (start : Nat) : Nat → Reader Nat
  | 0 => failHere .nameEnd
  | n + 1 => do
    match ← peek? with
    | none => failHere .nameEnd
    | some c =>
      let place ← here
      if c == '>' then
        let _ ← bump
        return place
      if !isNameChar (place == start) c then failNext .nameInvalid
      let _ ← bump
      nameEnd start n

/-- Pass the name of a group. -/
def groupName : Reader Unit := do
  let bound := (← read).size
  let start ← here
  let stop ← nameEnd start (bound + 1)
  if start == stop then fail .nameEmpty start start
  let name ← textBetween start stop
  let p ← get
  match p.names.lookup name with
  | some first => throw ⟨.nameTwice, ⟨start, stop⟩, some first⟩
  | none => set { p with names := (name, ⟨start, stop⟩) :: p.names }

/-- The opening of a group: its flags, and whether it consists of nothing else. -/
def groupOpening : Reader (List FlagChange × Bool) := do
  let bound := (← read).size
  let start ← here
  let _ ← bump
  bumpSpace
  for ahead in ["?=", "?!", "?<=", "?<!"] do
    if ← bumpIf ahead then fail .lookAround start (← here)
  let inner ← here
  if (← bumpIf "?P<") || (← bumpIf "?<") then
    groupName
    return ([], false)
  else if ← bumpIf "?" then
    if (← peek?).isNone then fail .groupUnclosed start (start + 1)
    let changes ← flagChanges (bound + 1) false [] []
    let closed ← nextIs ')'
    let _ ← bump
    if closed && changes.isEmpty then fail .nothingToRepeat inner inner
    return (changes, closed)
  else return ([], false)

/-- The parts of a sequence put together; the last one comes first. -/
def joined (parts : List Node) : Node :=
  parts.foldl (fun rest part => if rest = .empty then part else .seq part rest) .empty

/-- Whether blanks are skipped after some flags. -/
def spacedAfter (changes : List FlagChange) (spaced : Bool) : Bool :=
  (changes.lookup 'x').getD spaced

/-- Alternatives up to the end of the pattern, or to the parenthesis that closes the group that
begins at `opening`.  The first argument bounds the number of steps. -/
def alternatives : Nat → Option Nat → Option Node → List Node → Reader Node
  | 0, _, _, _ => failHere .groupUnclosed
  | n + 1, opening, before, parts => do
    bumpSpace
    let closed := fun () =>
      match before with
      | some node => Node.alt node (joined parts)
      | none => joined parts
    match ← peek? with
    | none =>
      match opening with
      | some place => fail .groupUnclosed place (place + 1)
      | none => return closed ()
    | some ')' =>
      match opening with
      | some _ => return closed ()
      | none => failNext .groupUnopened
    | some '|' =>
      let _ ← bump
      alternatives n opening (some (closed ())) []
    | some '(' =>
      let place ← here
      let outer := (← get).spaced
      let (changes, alone) ← groupOpening
      modify fun p => { p with spaced := spacedAfter changes outer }
      if alone then alternatives n opening before (.flags changes :: parts)
      else
        let body ← alternatives n (some place) none []
        modify fun p => { p with spaced := outer }
        let _ ← bump
        alternatives n opening before (.group changes body :: parts)
    | some '[' =>
      let m ← bracketed
      alternatives n opening before (.members m :: parts)
    | some '?' => do alternatives n opening before (← signRepetition parts 0 (some 1))
    | some '*' => do alternatives n opening before (← signRepetition parts 0 none)
    | some '+' => do alternatives n opening before (← signRepetition parts 1 none)
    | some '\x7b' => do alternatives n opening before (← countedRepetition parts)
    | some '\\' => do alternatives n opening before ((← escape) :: parts)
    | some c =>
      let span ← spanHere
      let _ ← bump
      let node : Node :=
        if c == '.' then .dot span
        else if c == '^' then .edge .caret
        else if c == '$' then .edge .dollar
        else .char c false span
      alternatives n opening before (node :: parts)

/-- Read the form of a pattern. -/
def read? (pattern : String) : Except Mistake Node :=
  let chars := pattern.toList.toArray
  match (alternatives (chars.size + 2) none none []).run chars |>.run {} with
  | .ok (node, _) => .ok node
  | .error m => .error m

end MonitorKeys.Log.Node
