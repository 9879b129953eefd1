/-!
# What can be wrong in a pattern

A pattern that cannot be read is reported with a copy of its lines, in which the places in question
are marked below, and with the words for what is wrong there.
-/

namespace MonitorKeys.Log

/-- A stretch of a pattern: the place of its first character, and the place after its last. -/
structure Span where
  start : Nat
  stop : Nat
  deriving DecidableEq, Repr

/-- What is wrong in a pattern. -/
inductive Complaint where
  | classEscape
  | classRange
  | classRangeEnd
  | classUnclosed
  | decimalInvalid
  | hexEmpty
  | hexInvalid
  | hexDigit
  | escapeEnd
  | escapeUnknown
  | flagDangling
  | flagTwice
  | flagNegatedTwice
  | flagEnd
  | flagUnknown
  | nameTwice
  | nameEmpty
  | nameInvalid
  | nameEnd
  | groupUnclosed
  | groupUnopened
  | countRange
  | countEmpty
  | countUnclosed
  | nothingToRepeat
  | edgeUnclosed
  | edgeUnknown
  | edgeEnd
  | propertyInvalid
  | lookBack
  | lookAround
  | notUnicode
  | notUtf8
  | noProperty
  | noPropertyValue
  | noNamedClass
  | noFolding
  deriving DecidableEq, Repr

/-- The words for what is wrong. -/
def Complaint.text : Complaint → String
  | classEscape => "invalid escape sequence found in character class"
  | classRange => "invalid character class range, the start must be <= the end"
  | classRangeEnd => "invalid range boundary, must be a literal"
  | classUnclosed => "unclosed character class"
  | decimalInvalid => "decimal literal invalid"
  | hexEmpty => "hexadecimal literal empty"
  | hexInvalid => "hexadecimal literal is not a Unicode scalar value"
  | hexDigit => "invalid hexadecimal digit"
  | escapeEnd => "incomplete escape sequence, reached end of pattern prematurely"
  | escapeUnknown => "unrecognized escape sequence"
  | flagDangling => "dangling flag negation operator"
  | flagTwice => "duplicate flag"
  | flagNegatedTwice => "flag negation operator repeated"
  | flagEnd => "expected flag but got end of regex"
  | flagUnknown => "unrecognized flag"
  | nameTwice => "duplicate capture group name"
  | nameEmpty => "empty capture group name"
  | nameInvalid => "invalid capture group character"
  | nameEnd => "unclosed capture group name"
  | groupUnclosed => "unclosed group"
  | groupUnopened => "unopened group"
  | countRange => "invalid repetition count range, the start must be <= the end"
  | countEmpty => "repetition quantifier expects a valid decimal"
  | countUnclosed => "unclosed counted repetition"
  | nothingToRepeat => "repetition operator missing expression"
  | edgeUnclosed =>
    "special word boundary assertion is either unclosed or contains an invalid character"
  | edgeUnknown =>
    "unrecognized special word boundary assertion, valid choices are: start, end, start-half or "
      ++ "end-half"
  | edgeEnd =>
    "found either the beginning of a special word boundary or a bounded repetition on a \\b with "
      ++ "an opening brace, but no closing brace"
  | propertyInvalid => "invalid Unicode character class"
  | lookBack => "backreferences are not supported"
  | lookAround => "look-around, including look-ahead and look-behind, is not supported"
  | notUnicode => "Unicode not allowed here"
  | notUtf8 => "pattern can match invalid UTF-8"
  | noProperty => "Unicode property not found"
  | noPropertyValue => "Unicode property value not found"
  | noNamedClass =>
    "Unicode-aware Perl class not found (make sure the unicode-perl feature is enabled)"
  | noFolding =>
    "Unicode-aware case insensitivity matching is not available (make sure the unicode-case "
      ++ "feature is enabled)"

/-- What is wrong in a pattern, where, and where the first of two things stands that cannot both
be there. -/
structure Mistake where
  complaint : Complaint
  span : Span
  first : Option Span := none
  deriving DecidableEq, Repr

namespace Mistake

/-- The stretches to be marked, from left to right. -/
def spans (m : Mistake) : List Span :=
  match m.first with
  | none => [m.span]
  | some first => if first.start ≤ m.span.start then [first, m.span] else [m.span, first]

/-- The lines of a pattern, each with the place where it begins.  Nothing follows a last line
end. -/
def lines (pattern : String) : List (Nat × String) :=
  let parts := pattern.splitOn "\n"
  let parts := if parts.getLast? = some "" then parts.dropLast else parts
  (parts.foldl
    (fun (found, start) line => ((start, line) :: found, start + line.length + 1))
    (([] : List (Nat × String)), 0)).1.reverse

/-- The marks below a line, given the places where they begin and end, counted from the start of
the line. -/
def marks (spans : List Span) : String :=
  spans.foldl
    (fun drawn s =>
      drawn ++ String.ofList (List.replicate (s.start - drawn.length) ' ')
        ++ String.ofList (List.replicate (max 1 (s.stop - s.start)) '^'))
    ""

/-- A line of a pattern with its margin, and with the marks below it. -/
def marked (margin blank : String) (start : Nat) (line : String) (spans : List Span) : String :=
  let here := spans.filter fun s =>
    start ≤ s.start && s.start ≤ start + line.length && s.stop ≤ start + line.length + 1
  margin ++ line ++ "\n"
    ++ if here.isEmpty then ""
      else blank ++ marks (here.map fun s => ⟨s.start - start, s.stop - start⟩) ++ "\n"

/-- The report of a mistake.  A pattern of several lines has them numbered. -/
def report (pattern : String) (m : Mistake) : String :=
  let lines := lines pattern
  let count := if pattern.endsWith "\n" then lines.length + 1 else lines.length
  let numbered := lines.zipIdx.map fun ((start, line), i) =>
    if count ≤ 1 then marked "    " "    " start line m.spans
    else
      let width := (toString count).length
      let number := toString (i + 1)
      let margin := String.ofList (List.replicate (width - number.length) ' ') ++ number ++ ": "
      marked margin (String.ofList (List.replicate (width + 2) ' ')) start line m.spans
  let rule := if pattern.contains '\n' then String.ofList (List.replicate 79 '~') ++ "\n" else ""
  "regex parse error:\n" ++ rule ++ String.join numbered ++ rule ++ "error: "
    ++ m.complaint.text

end Mistake

end MonitorKeys.Log
