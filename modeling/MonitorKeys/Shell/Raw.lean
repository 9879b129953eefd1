import MonitorKeys.Text.Utf8

/-!
# Texts of bytes

Shells and the programs they start take text as bytes, whether or not these make up characters.
Here such a text is a `String` in which every character stands for one byte, so that a byte can be
tested, cut and replaced like a character.  `Raw.ofText` and `Raw.ofBytes` give such texts, and
`Raw.store` leads back to bytes.
-/

namespace MonitorKeys.Shell.Raw

open Text (Bytes)

/-- The raw text of some bytes. -/
def ofBytes (bytes : Bytes) : String :=
  String.ofList (bytes.map fun b => Char.ofNat b.toNat)

/-- The raw text of a text in UTF-8. -/
def ofText (s : String) : String :=
  ofBytes (Text.bytesOf s)

/-! ## Bytes in store -/

/-- Add a raw text to stored bytes. -/
def store (bytes : ByteArray) (s : String) : ByteArray :=
  s.foldl (fun bytes c => bytes.push (UInt8.ofNat c.toNat)) bytes

/-- The raw text of at most `count` stored bytes from a place on. -/
def load (bytes : ByteArray) (start count : Nat) : String :=
  (bytes.extract start (start + count)).foldl (fun s b => s.push (Char.ofNat b.toNat)) ""

/-! ## Lines -/

/-- The lines of a raw text, without their ends; what follows the last line end is a line as well
where it is not empty. -/
def lines (s : String) : List String :=
  let parts := s.splitOn "\n"
  if parts.getLast? = some "" then parts.dropLast else parts

/-- Lines with an end behind each. -/
def unlines (ls : List String) : String :=
  String.join (ls.map (· ++ "\n"))

/-! ## Numbers -/

/-- The number that some digits write to a base, where all of them are digits to it. -/
def digits? (base : Nat) (cs : List Char) : Option Nat :=
  if cs.isEmpty then none
  else
    cs.foldl
      (fun n c => do
        let value ←
          if c.isDigit then some (c.toNat - '0'.toNat)
          else if c.isAlpha then some (c.toLower.toNat - 'a'.toNat + 10)
          else none
        if value < base then some ((← n) * base + value) else none)
      (some 0)

/-- The number that a decimal numeral writes. -/
def nat? (s : String) : Option Nat :=
  digits? 10 s.toList

/-- The number that a decimal numeral with a sign or none writes. -/
def int? (s : String) : Option Int :=
  match s.toList with
  | '-' :: cs => (digits? 10 cs).map fun n => -(n : Int)
  | '+' :: cs => (digits? 10 cs).map Int.ofNat
  | cs => (digits? 10 cs).map Int.ofNat

/-- A text behind as many characters as it lacks to a width. -/
def padLeft (width : Nat) (c : Char) (s : String) : String :=
  String.ofList (List.replicate (width - s.length) c) ++ s

/-- A text before as many characters as it lacks to a width. -/
def padRight (width : Nat) (c : Char) (s : String) : String :=
  s ++ String.ofList (List.replicate (width - s.length) c)

/-- The digits of a number to a base. -/
def inBase (base n : Nat) : String :=
  String.ofList (Nat.toDigits base n)

end MonitorKeys.Shell.Raw
