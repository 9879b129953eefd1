import MonitorKeys.Log.Pattern.Reader

/-!
# Escapes in patterns

A backslash takes the meaning from a character that has one, and gives one to some letters: a
character by its code point, a class, or a condition on the place.
-/

namespace MonitorKeys.Log.Node

/-- The value of a digit to base sixteen. -/
def hexValue? (c : Char) : Option Nat :=
  if c.isDigit then some (c.toNat - '0'.toNat)
  else if 'a' ≤ c && c ≤ 'f' then some (c.toNat - 'a'.toNat + 10)
  else if 'A' ≤ c && c ≤ 'F' then some (c.toNat - 'A'.toNat + 10)
  else none

/-- The character with a code point, where there is one. -/
def charOf? (code : Nat) : Option Char :=
  if h : code.isValidChar then some (Char.ofNatAux code h) else none

/-- Exactly so many digits to base sixteen, the first of which comes next. -/
def hexDigits : Nat → Nat → Reader Nat
  | 0, value => return value
  | n + 1, value => do
    match (← peek?).bind hexValue? with
    | none => failNext .hexDigit
    | some digit =>
      let more ← bumpOn
      if n != 0 && !more then failHere .escapeEnd
      hexDigits n (value * 16 + digit)

/-- Digits to base sixteen up to a brace; their number, and their value. -/
def hexUntilBrace : Nat → Nat → Nat → Reader (Nat × Nat)
  | 0, count, value => return (count, value)
  | n + 1, count, value => do
    match ← peek? with
    | none => return (count, value)
    | some c =>
      if c == '\x7d' then return (count, value)
      match hexValue? c with
      | none => failNext .hexDigit
      | some digit =>
        let _ ← bumpOn
        hexUntilBrace n (count + 1) (value * 16 + digit)

/-- The character that an escape gives by its code point, and whether that is a byte. -/
def hexChar (kind : Char) : Reader (Char × Bool) := do
  let bound := (← read).size
  if !(← bumpOn) then failHere .escapeEnd
  let start ← here
  if ← nextIs '\x7b' then
    let _ ← bumpOn
    let (count, value) ← hexUntilBrace bound 0 0
    let stop ← here
    if !(← nextIs '\x7d') then fail .escapeEnd start stop
    let _ ← bumpOn
    if count == 0 then fail .hexEmpty start (← here)
    match charOf? value with
    | some c => return (c, false)
    | none => fail .hexInvalid (start + 1) stop
  else
    let value ← hexDigits (if kind == 'x' then 2 else if kind == 'u' then 4 else 8) 0
    match charOf? value with
    | some c => return (c, kind == 'x')
    | none => fail .hexInvalid start (← here)

/-- The rest of the name of a property up to a brace. -/
def nameUntilBrace : Nat → List Char → Reader String
  | 0, passed => return String.ofList passed.reverse
  | n + 1, passed => do
    match ← peek? with
    | none => failHere .escapeEnd
    | some c =>
      if c == '\x7d' then
        let _ ← bump
        return String.ofList passed.reverse
      let _ ← bumpOn
      nameUntilBrace n (c :: passed)

/-- The members that a property gives; `start` is where the escape begins. -/
def propertyMembers (start : Nat) : Reader Members := do
  let bound := (← read).size
  if !(← bumpOn) then failHere .escapeEnd
  match ← peek? with
  | some '\x7b' =>
    let _ ← bumpOn
    let name ← nameUntilBrace (bound + 1) []
    return .property name ⟨start, ← here⟩
  | some '\\' => failNext .propertyInvalid
  | c =>
    let _ ← bumpOn
    return .property (c.elim "" String.singleton) ⟨start, ← here⟩

/-- The letters and hyphens that come next. -/
def edgeName : Nat → List Char → Reader String
  | 0, passed => return String.ofList passed.reverse
  | n + 1, passed => do
    match ← peek? with
    | some c =>
      if c.isAlpha || c == '-' then
        let _ ← bumpOn
        edgeName n (c :: passed)
      else return String.ofList passed.reverse
    | none => return String.ofList passed.reverse

/-- The condition that follows the letter `b` in braces, where there is one. -/
def edgeInBraces? (start : Nat) : Reader (Option Anchor) := do
  let bound := (← read).size
  let brace ← here
  if !(← bumpOn) then fail .edgeEnd start (← here)
  let contents ← here
  if !((← peek?).any fun c => c.isAlpha || c == '-') then
    modify fun p => { p with place := brace }
    return none
  let name ← edgeName bound []
  if !(← nextIs '\x7d') then fail .edgeUnclosed brace (← here)
  let stop ← here
  let _ ← bump
  match name with
  | "start" => return some .wordStart
  | "end" => return some .wordEnd
  | "start-half" => return some .noWordBefore
  | "end-half" => return some .noWordAfter
  | _ => fail .edgeUnknown contents stop

/-- Whether a character has a meaning of its own in patterns. -/
def isMeta (c : Char) : Bool :=
  "\\.+*?()|[]\x7b\x7d^$#&-~".toList.contains c

/-- The characters that letters stand for after a backslash. -/
def letterChars : List (Char × Char) :=
  [('a', '\x07'), ('f', '\x0c'), ('t', '\t'), ('n', '\n'), ('r', '\r'), ('v', '\x0b')]

/-- What a backslash and the characters after it stand for. -/
def escape : Reader Node := do
  let start ← here
  if !(← bump) then fail .escapeEnd start (← here)
  let c := (← peek?).getD ' '
  let after := (← here) + 1
  if c.isDigit then fail .lookBack start after
  else if c == 'x' || c == 'u' || c == 'U' then
    let (d, isByte) ← hexChar c
    return .char d isByte ⟨start, ← here⟩
  else if c == 'p' || c == 'P' then return .members (← propertyMembers start)
  else
    let _ ← bump
    let span : Span := ⟨start, after⟩
    if "dswDSW".toList.contains c then return .members (.letter c span)
    else if isMeta c then return .char c false span
    else
      match letterChars.lookup c with
      | some d => return .char d false span
      | none =>
        match c with
        | 'A' => return .edge .textStart
        | 'z' => return .edge .textEnd
        | 'B' => return .edge (.word .noWordEdge)
        | '<' => return .edge (.word .wordStart)
        | '>' => return .edge (.word .wordEnd)
        | 'b' =>
          if ← nextIs '\x7b' then
            return .edge (.word ((← edgeInBraces? start).getD .wordEdge))
          return .edge (.word .wordEdge)
        | _ =>
          if c.isAlpha || 0x80 ≤ c.toNat then fail .escapeUnknown start after
          return .char c false span

end MonitorKeys.Log.Node
