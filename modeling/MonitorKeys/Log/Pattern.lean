import MonitorKeys.Log.Pattern.Sequence

/-!
# What patterns mean

A filter can ask for records whose text matches a pattern.  Characters are Unicode unless a flag
says otherwise, but nothing is known about their properties: classes that are named after a
property, comparing without regard to case, and the edges of words need ASCII to be asked for.

`Node.toMeaning` gives the expression for a form that was read, and `Pattern.read` is both steps
together.
-/

namespace MonitorKeys.Log

/-! ## Flags -/

/-- The flags that change what a pattern means. -/
structure Flags where
  anyCase : Bool := false
  lines : Bool := false
  dotAll : Bool := false
  returns : Bool := false
  unicode : Bool := true

/-- Flags after some changes. -/
def Flags.changed (flags : Flags) (changes : List FlagChange) : Flags :=
  changes.foldl
    (fun flags (c, value) =>
      match c with
      | 'i' => { flags with anyCase := value }
      | 'm' => { flags with lines := value }
      | 's' => { flags with dotAll := value }
      | 'R' => { flags with returns := value }
      | 'u' => { flags with unicode := value }
      | _ => flags)
    flags

/-- Whether a character is a letter whose case can count. -/
def isCased (c : Char) : Bool :=
  c.isAlpha

/-- The set of one character. -/
def charSet (flags : Flags) (c : Char) (isByte : Bool) (span : Span) :
    Except Mistake CharSet :=
  if !flags.unicode && isByte && 0x80 ≤ c.toNat then .error ⟨.notUtf8, span, none⟩
  else if !flags.anyCase then .ok (.single c)
  else if flags.unicode then .error ⟨.noFolding, span, none⟩
  else .ok (if isCased c then .anyCase (.single c) else .single c)

/-- A set in upper and lower case where case does not count, and negated where that is asked for. -/
def folded (flags : Flags) (negated : Bool) (set : CharSet) (span : Span) :
    Except Mistake CharSet :=
  if flags.anyCase && flags.unicode then .error ⟨.noFolding, span, none⟩
  else
    let set := if flags.anyCase then set.anyCase else set
    if !negated then .ok set
    else if flags.unicode then .ok set.complement
    else .error ⟨.notUtf8, span, none⟩

/-- The set of a class with a letter. -/
def letterSet (flags : Flags) (c : Char) (span : Span) : Except Mistake CharSet :=
  if flags.unicode then .error ⟨.noNamedClass, span, none⟩
  else
    match c with
    | 'd' => .ok .digits
    | 's' => .ok .blanks
    | 'w' => .ok .wordChars
    | _ => .error ⟨.notUtf8, span, none⟩

/-- The mistake that the name of a property is. -/
def propertyMistake (flags : Flags) (name : String) (span : Span) : Mistake :=
  let plain := (name.toList.filter fun c => c != ' ' && c != '_' && c != '-').map Char.toLower
  if !flags.unicode then ⟨.notUnicode, span, none⟩
  else if ["cf", "sc", "lc"].contains (String.ofList plain) then ⟨.noPropertyValue, span, none⟩
  else ⟨.noProperty, span, none⟩

/-- The ends of a range, or of a single character within brackets. -/
def rangeEnd (flags : Flags) (c : Char) (isByte : Bool) (span : Span) : Except Mistake Char :=
  if flags.unicode || c.toNat < 0x80 then .ok c
  else .error ⟨if isByte then .notUtf8 else .notUnicode, span, none⟩

/-- The set of the members of a class. -/
def Members.toSet (flags : Flags) : Members → Except Mistake CharSet
  | .char c isByte span => do return .single (← rangeEnd flags c isByte span)
  | .between (.char a aByte aSpan) (.char b bByte bSpan) => do
    return .ranges [(← rangeEnd flags a aByte aSpan, ← rangeEnd flags b bByte bSpan)]
  | .between _ _ => .ok .none
  | .named set negated span => folded flags negated set span
  | .letter c span => letterSet flags c span
  | .property name span => .error (propertyMistake flags name span)
  | .nothing => .ok .none
  | .union a b => do return .union (← a.toSet flags) (← b.toSet flags)
  | .inter a b => do return .inter (← a.toSet flags) (← b.toSet flags)
  | .diff a b => do return .diff (← a.toSet flags) (← b.toSet flags)
  | .either a b => do
    let (a, b) := (← a.toSet flags, ← b.toSet flags)
    return .union (.diff a b) (.diff b a)
  | .bracketed negated body span => do folded flags negated (← body.toSet flags) span

/-- The set of the characters that a dot stands for. -/
def dotSet (flags : Flags) (span : Span) : Except Mistake CharSet :=
  if !flags.unicode then .error ⟨.notUtf8, span, none⟩
  else if flags.dotAll then .ok .all
  else .ok (.complement (.ofList (if flags.returns then ['\r', '\n'] else ['\n'])))

/-- The condition that an edge asks for, and whether it asks for words that are not ASCII. -/
def Edge.toAnchor (flags : Flags) : Edge → Anchor × Bool
  | .caret => (if flags.lines then .lineStart else .textStart, false)
  | .dollar => (if flags.lines then .lineEnd else .textEnd, false)
  | .textStart => (.textStart, false)
  | .textEnd => (.textEnd, false)
  | .word anchor => (anchor, flags.unicode)

/-- What a part of a pattern means. -/
structure Meaning where
  regex : Regex
  /-- The flags behind it. -/
  flags : Flags
  /-- Whether it asks for the edges of words that are not ASCII. -/
  unicodeWords : Bool := false

/-- The meaning of a part of a pattern under some flags. -/
def Node.toMeaning : Node → Flags → Except Mistake Meaning
  | .empty, held => .ok { regex := .empty, flags := held }
  | .char c isByte span, held => do
    return { regex := .one (← charSet held c isByte span), flags := held }
  | .dot span, held => do return { regex := .one (← dotSet held span), flags := held }
  | .edge kind, held =>
    let (anchor, unicodeWords) := kind.toAnchor held
    .ok { regex := .anchor anchor, flags := held, unicodeWords }
  | .members m, held => do return { regex := .one (← m.toSet held), flags := held }
  | .flags changes, held => .ok { regex := .empty, flags := held.changed changes }
  | .times body least most, held => do
    let inner ← toMeaning body held
    return { inner with regex := .times inner.regex least most }
  | .group changes body, held => do
    let inner ← toMeaning body (held.changed changes)
    return { inner with flags := held }
  | .seq a b, held => do
    let first ← toMeaning a held
    let second ← toMeaning b first.flags
    return ⟨.seq first.regex second.regex, second.flags, first.unicodeWords || second.unicodeWords⟩
  | .alt a b, held => do
    let first ← toMeaning a held
    let second ← toMeaning b first.flags
    return ⟨.alt first.regex second.regex, second.flags, first.unicodeWords || second.unicodeWords⟩

namespace Pattern

/-- Why a pattern cannot be used. -/
inductive Fault where
  /-- It is not well formed, or asks for something that is not known. -/
  | mistake (m : Mistake)
  /-- It asks for the edges of words that are not ASCII. -/
  | unicodeWords
  /-- It is too large. -/
  | tooLarge
  deriving DecidableEq, Repr

/-- The bound on the size of a pattern in bytes. -/
def sizeLimit : Nat := 10 * 2 ^ 20

/-- The report about a pattern that cannot be used. -/
def Fault.report (pattern : String) : Fault → String
  | mistake m => m.report pattern
  | unicodeWords => "error building NFA"
  | tooLarge => "Compiled regex exceeds size limit of " ++ toString sizeLimit ++ " bytes."

/-- The number of states that an expression needs. -/
def states : Regex → Nat
  | .empty | .anchor _ | .again _ _ => 1
  | .one (.ranges _) => 1
  | .one _ => 12
  | .seq a b => states a + states b
  | .alt a b => states a + states b + 2
  | .times a least most => states a * max 1 (most.getD (least + 1)) + 1
  | .group _ a => states a + 2

/-- The number of bytes that a state takes. -/
def stateSize : Nat := 32

/-- The expression that a pattern means. -/
def read (pattern : String) : Except Fault Regex :=
  match Node.read? pattern with
  | .error m => .error (.mistake m)
  | .ok node =>
    match node.toMeaning {} with
    | .error m => .error (.mistake m)
    | .ok meaning =>
      if meaning.unicodeWords then .error .unicodeWords
      else if sizeLimit < states meaning.regex * stateSize then .error .tooLarge
      else .ok meaning.regex

end Pattern

end MonitorKeys.Log
