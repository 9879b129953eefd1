import MonitorKeys.Log.Mistake
import MonitorKeys.Regex

/-!
# The form of patterns

A pattern consists of alternatives, repetitions, groups with flags, classes in brackets, escapes and
single characters.  What may turn out to mean nothing keeps the place where it stands.
-/

namespace MonitorKeys.Log

/-- A condition that a pattern asks for between two characters. -/
inductive Edge where
  /-- `^` and `$`, which a flag moves from the ends of the text to the ends of lines. -/
  | caret
  | dollar
  | textStart
  | textEnd
  /-- A condition on words. -/
  | word (anchor : Anchor)
  deriving DecidableEq, Repr

/-- A flag, and whether it is set or taken back. -/
abbrev FlagChange := Char × Bool

/-- What stands in the brackets of a class. -/
inductive Members where
  /-- One character; `isByte` says that it is given by two digits to base sixteen. -/
  | char (c : Char) (isByte : Bool) (span : Span)
  /-- The characters between two, which are members of their own. -/
  | between (first last : Members)
  /-- A class by its name between colons. -/
  | named (set : CharSet) (negated : Bool) (span : Span)
  /-- A class by its letter. -/
  | letter (c : Char) (span : Span)
  /-- The characters with a property. -/
  | property (name : String) (span : Span)
  | nothing
  | union (a b : Members)
  | inter (a b : Members)
  | diff (a b : Members)
  /-- The characters that are in one of them only. -/
  | either (a b : Members)
  /-- A class in brackets of its own. -/
  | bracketed (negated : Bool) (body : Members) (span : Span)
  deriving DecidableEq, Repr

/-- The form of a pattern. -/
inductive Node where
  | empty
  | char (c : Char) (isByte : Bool) (span : Span)
  | dot (span : Span)
  | edge (kind : Edge)
  | members (m : Members)
  /-- From here to the end of the group these flags hold. -/
  | flags (changes : List FlagChange)
  | times (body : Node) (least : Nat) (most : Option Nat)
  | group (changes : List FlagChange) (body : Node)
  | seq (a b : Node)
  | alt (a b : Node)
  deriving DecidableEq, Repr

end MonitorKeys.Log
