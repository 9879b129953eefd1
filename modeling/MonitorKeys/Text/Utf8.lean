/-!
# UTF-8 as lists of bytes

Output budgets, command line arguments and what a child process reads are counted in bytes.  This
file gives the bytes of a text and reads them back in two ways: strictly, where one broken
character refuses the whole, and leniently, where every broken part becomes the replacement
character.

* `firstChar?` takes one character off the front of a byte string, and `decode?` reads all of it.
  `decode?_eq_some_iff` says that it accepts exactly the bytes of texts.
* `brokenLength` is how many bytes the lenient reader gives up at once where there is none: the
  longest beginning of a character, and at least one byte.
-/

namespace MonitorKeys.Text

/-- Raw bytes, such as an argument, a line on a pipe, or what an output has accepted. -/
abbrev Bytes := List UInt8

/-- The UTF-8 bytes of a list of characters. -/
def encode (cs : List Char) : Bytes :=
  cs.flatMap String.utf8EncodeChar

/-- The UTF-8 bytes of a text. -/
def bytesOf (s : String) : Bytes :=
  encode s.toList

@[simp] theorem encode_nil : encode [] = [] := rfl

@[simp] theorem encode_cons (c : Char) (cs : List Char) :
    encode (c :: cs) = String.utf8EncodeChar c ++ encode cs := rfl

@[simp] theorem encode_append (a b : List Char) : encode (a ++ b) = encode a ++ encode b := by
  simp [encode]

/-! ## Reading -/

/-- The character that a byte string opens with, and the bytes after it. -/
def firstChar? (bytes : Bytes) : Option (Char × Bytes) :=
  (ByteArray.utf8DecodeChar? (bytes.take 4).toByteArray 0).map fun c =>
    (c, bytes.drop c.utf8Size)

/-- A character is read back from its bytes, whatever follows them. -/
theorem firstChar?_encodeChar (c : Char) (rest : Bytes) :
    firstChar? (String.utf8EncodeChar c ++ rest) = some (c, rest) := by
  have hlen : (String.utf8EncodeChar c).length = c.utf8Size := String.length_utf8EncodeChar c
  have hle : c.utf8Size ≤ 4 := c.utf8Size_le_four
  have htake : (String.utf8EncodeChar c ++ rest).take 4 =
      String.utf8EncodeChar c ++ rest.take (4 - c.utf8Size) := by
    rw [List.take_append, hlen, List.take_of_length_le (by omega)]
  have hdrop : (String.utf8EncodeChar c ++ rest).drop c.utf8Size = rest := by
    rw [← hlen, List.drop_left]
  rw [firstChar?, htake, List.toByteArray_append, ByteArray.utf8DecodeChar?_utf8EncodeChar_append,
    Option.map_some, hdrop]

/-- A character that was read and the bytes after it make up the bytes again. -/
theorem eq_append_of_firstChar? {bytes rest : Bytes} {c : Char}
    (h : firstChar? bytes = some (c, rest)) : bytes = String.utf8EncodeChar c ++ rest := by
  simp only [firstChar?, Option.map_eq_some_iff, Prod.mk.injEq] at h
  obtain ⟨d, hd, rfl, rfl⟩ := h
  obtain ⟨tail, htail⟩ := ByteArray.exists_of_utf8DecodeChar?_eq_some hd
  have hlist := congrArg (fun b => b.data.toList) htail
  simp only [List.data_toByteArray, ByteArray.data_append, Array.toList_append,
    List.toList_toArray] at hlist
  have hlen : (String.utf8EncodeChar d).length = d.utf8Size := String.length_utf8EncodeChar d
  have hfront : bytes.take d.utf8Size = String.utf8EncodeChar d := by
    have hle : d.utf8Size ≤ 4 := d.utf8Size_le_four
    have := congrArg (List.take d.utf8Size) hlist
    rwa [List.take_take, Nat.min_eq_left hle, ← hlen, List.take_left, hlen] at this
  rw [← hfront, List.take_append_drop]

/-- Whether a byte goes on with a character that another byte began. -/
def isContinuation (byte : UInt8) : Bool :=
  0x80 ≤ byte && byte ≤ 0xbf

/-- For the first byte of a character of several bytes: how many follow, and the range of the
second one, which leaves out the overlong forms, the surrogates and what lies above U+10FFFF. -/
def lead? (byte : UInt8) : Option (Nat × UInt8 × UInt8) :=
  if 0xc2 ≤ byte && byte ≤ 0xdf then some (1, 0x80, 0xbf)
  else if byte == 0xe0 then some (2, 0xa0, 0xbf)
  else if byte == 0xed then some (2, 0x80, 0x9f)
  else if 0xe1 ≤ byte && byte ≤ 0xef then some (2, 0x80, 0xbf)
  else if byte == 0xf0 then some (3, 0x90, 0xbf)
  else if 0xf1 ≤ byte && byte ≤ 0xf3 then some (3, 0x80, 0xbf)
  else if byte == 0xf4 then some (3, 0x80, 0x8f)
  else none

/-- The length of the longest beginning of a character that a broken byte string opens with, at
least one. -/
def brokenLength : Bytes → Nat
  | first :: second :: rest =>
    match lead? first with
    | some (following, low, high) =>
      if low ≤ second && second ≤ high then
        2 + ((rest.take (following - 1)).takeWhile isContinuation).length
      else 1
    | none => 1
  | _ => 1

theorem brokenLength_pos (bytes : Bytes) : 0 < brokenLength bytes := by
  unfold brokenLength
  split
  · split
    · split <;> omega
    · omega
  · omega

theorem length_lt_of_firstChar? {bytes rest : Bytes} {c : Char}
    (h : firstChar? bytes = some (c, rest)) : rest.length < bytes.length := by
  have hpos := c.utf8Size_pos
  rw [eq_append_of_firstChar? h, List.length_append, String.length_utf8EncodeChar]
  omega

/-- The characters of a byte string that is UTF-8, and `none` for any other. -/
def decode? (bytes : Bytes) : Option (List Char) :=
  match _ : firstChar? bytes with
  | some (c, rest) => (decode? rest).map (c :: ·)
  | none => if bytes.isEmpty then some [] else none
termination_by bytes.length
decreasing_by exact length_lt_of_firstChar? ‹_›

/-- The strict reader undoes writing. -/
theorem decode?_encode (cs : List Char) : decode? (encode cs) = some cs := by
  induction cs with
  | nil => rw [decode?]; simp [firstChar?, ByteArray.utf8DecodeChar?]
  | cons c cs ih =>
    rw [decode?, encode_cons]
    split
    · next d rest h =>
      rw [firstChar?_encodeChar] at h
      simp only [Option.some.injEq, Prod.mk.injEq] at h
      obtain ⟨rfl, rfl⟩ := h
      rw [ih, Option.map_some]
    · next h => simp [firstChar?_encodeChar] at h

theorem eq_encode_of_decode? {bytes : Bytes} {cs : List Char} (h : decode? bytes = some cs) :
    bytes = encode cs := by
  fun_induction decode? bytes generalizing cs with
  | case1 bytes c rest hf ih =>
    obtain ⟨ds, hds, rfl⟩ := Option.map_eq_some_iff.1 h
    rw [eq_append_of_firstChar? hf, ih hds, encode_cons]
  | case2 bytes hf he => simp_all
  | case3 => simp at h

/-- The strict reader accepts exactly what writing produces. -/
theorem decode?_eq_some_iff {bytes : Bytes} {cs : List Char} :
    decode? bytes = some cs ↔ bytes = encode cs :=
  ⟨eq_encode_of_decode?, fun h => h ▸ decode?_encode cs⟩

/-- The text of a byte string that is UTF-8. -/
def ofBytes? (bytes : Bytes) : Option String :=
  (decode? bytes).map String.ofList

/-- The characters of a byte string, each broken part replaced by U+FFFD. -/
def decodeLossy (bytes : Bytes) : List Char :=
  match _ : firstChar? bytes with
  | some (c, rest) => c :: decodeLossy rest
  | none =>
    if bytes.isEmpty then [] else '\uFFFD' :: decodeLossy (bytes.drop (brokenLength bytes))
termination_by bytes.length
decreasing_by
  · exact length_lt_of_firstChar? ‹_›
  · have hpos := brokenLength_pos bytes
    have hne : bytes ≠ [] := by simpa using ‹¬ bytes.isEmpty = true›
    have := List.length_pos_iff.2 hne
    simp only [List.length_drop]
    omega

/-- The text of a byte string, each broken part replaced by U+FFFD. -/
def ofBytesLossy (bytes : Bytes) : String :=
  String.ofList (decodeLossy bytes)

end MonitorKeys.Text
