/-!
# Blank characters

A character is blank when it has the Unicode property White_Space: the ASCII blanks, the next-line
and no-break spaces, and the spaces and line separators of the general punctuation block.  The
zero-width space and the byte order mark are not blank.
-/

namespace MonitorKeys.Text

/-- Inclusive ranges of the blank code points. -/
def blankRanges : List (Nat × Nat) :=
  [(0x09, 0x0d), (0x20, 0x20), (0x85, 0x85), (0xa0, 0xa0), (0x1680, 0x1680), (0x2000, 0x200a),
   (0x2028, 0x2029), (0x202f, 0x202f), (0x205f, 0x205f), (0x3000, 0x3000)]

/-- Whether a character has the property White_Space. -/
def isBlank (c : Char) : Bool :=
  blankRanges.any fun range => range.1 ≤ c.toNat && c.toNat ≤ range.2

/-- A text without the blanks at its two ends. -/
def trim (cs : List Char) : List Char :=
  ((cs.dropWhile isBlank).reverse.dropWhile isBlank).reverse

end MonitorKeys.Text
