import MonitorKeys.Token

/-!
# Reading tokens one at a time

A cursor is a text and a byte offset into its UTF-8 form.  Each call of `Cursor.next` gives one
token and moves the offset past it, so a text can be translated while it is being read.

Offsets count bytes while tokens are made of characters, so a slice of the text exists only where
the offset falls between two characters.  `dropBytes?` and `takeBytes?` answer `none` elsewhere,
and so does `Cursor.next?`.
-/

namespace MonitorKeys

/-! ## Slices by byte offset -/

/-- The characters after the first `n` bytes; `none` when these end inside a character or past
the end. -/
def dropBytes? : Nat → List Char → Option (List Char)
  | 0, cs => some cs
  | _ + 1, [] => none
  | n + 1, c :: cs => if c.utf8Size ≤ n + 1 then dropBytes? (n + 1 - c.utf8Size) cs else none

/-- The characters of the first `n` bytes; `none` when these end inside a character or past the
end. -/
def takeBytes? : Nat → List Char → Option (List Char)
  | 0, _ => some []
  | _ + 1, [] => none
  | n + 1, c :: cs =>
    if c.utf8Size ≤ n + 1 then (takeBytes? (n + 1 - c.utf8Size) cs).map (c :: ·) else none

/-- The byte offset of the first occurrence of a character. -/
def byteOffset? (c : Char) : List Char → Option Nat
  | [] => none
  | d :: cs => if d = c then some 0 else (byteOffset? c cs).map (d.utf8Size + ·)

/-! ## The cursor -/

/-- A position in a text. -/
structure Cursor where
  /-- The text that is read. -/
  input : String
  /-- How many bytes of it have been read. -/
  offset : Nat
  deriving DecidableEq, Repr

namespace Cursor

/-- The cursor before the first character of a text. -/
def start (input : String) : Cursor :=
  ⟨input, 0⟩

/-- The cursor `n` bytes further on. -/
def advance (cursor : Cursor) (n : Nat) : Cursor :=
  { cursor with offset := cursor.offset + n }

/-- The token at the cursor, `none` at the end, and the cursor after it.  The whole answer is
`none` when a slice that it needs does not exist. -/
def next? (cursor : Cursor) : Option (Option Token × Cursor) := do
  match ← dropBytes? cursor.offset cursor.input.toList with
  | [] => some (none, cursor)
  | c :: body =>
    match if c = '<' then byteOffset? '>' body else none with
    | some (close + 1) =>
      let name ← takeBytes? (close + 1) body
      some (some (.escape (String.ofList name)), cursor.advance (close + 1 + 2))
    | _ => some (some (.literal c), cursor.advance c.utf8Size)

/-- The token at the cursor and the cursor after it; a cursor that stands at no character is at
its end. -/
def next (cursor : Cursor) : Option Token × Cursor :=
  cursor.next?.getD (none, cursor)

/-- The answers of the next `n` calls. -/
def calls : Nat → Cursor → List (Option Token)
  | 0, _ => []
  | n + 1, cursor => cursor.next.1 :: calls n cursor.next.2

end Cursor

end MonitorKeys
