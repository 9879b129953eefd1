import MonitorKeys.Shell.Tool.Copying

/-!
# Bytes in writing

`od` prints bytes as numbers or by their names, `base64` and `base32` write them in letters and read
these back, and `strings` prints the texts among them.
-/

namespace MonitorKeys.Shell.Tool.Dump

/-! ## Numbers and names -/

/-- How `od` shows the bytes of a block: the kind of items, how many bytes make one, and whether the
text is shown behind them. -/
structure Shape where
  kind : Char
  size : Nat
  trailer : Bool := false
  deriving DecidableEq, Repr

/-- How many characters an item takes. -/
def Shape.width (s : Shape) : Nat :=
  let bySize (a b c d : Nat) : Nat :=
    if s.size == 1 then a else if s.size == 2 then b else if s.size == 4 then c else d
  match s.kind with
  | 'o' => bySize 3 6 11 22
  | 'd' => bySize 4 6 11 20
  | 'u' => bySize 3 5 10 20
  | 'x' => bySize 2 4 8 16
  | _ => 3

/-- The names of the characters that cannot be seen. -/
def names : List String :=
  ["nul", "soh", "stx", "etx", "eot", "enq", "ack", "bel", "bs", "ht", "nl", "vt", "ff", "cr", "so",
   "si", "dle", "dc1", "dc2", "dc3", "dc4", "nak", "syn", "etb", "can", "em", "sub", "esc", "fs",
   "gs", "rs", "us", "sp"]

/-- The signs of the characters that have a letter behind a backslash. -/
def signs : List (Char × String) :=
  [('\x00', "\\0"), ('\x07', "\\a"), ('\x08', "\\b"), ('\x0c', "\\f"), ('\n', "\\n"), ('\r', "\\r"),
   ('\t', "\\t"), ('\x0b', "\\v")]

/-- Whether a character can be seen or is a blank. -/
def isPrintable (c : Char) : Bool :=
  32 ≤ c.toNat && c.toNat < 127

/-- The text of an item of some bytes, the least significant byte first. -/
def Shape.item (s : Shape) (bytes : List Char) : String :=
  let n := bytes.foldr (fun c n => c.toNat + 256 * n) 0
  match s.kind with
  | 'o' => Raw.padLeft s.width '0' (Raw.inBase 8 n)
  | 'x' => Raw.padLeft s.width '0' (Raw.inBase 16 n)
  | 'u' => toString n
  | 'd' =>
    let limit := 256 ^ s.size
    if limit ≤ 2 * n then "-" ++ toString (limit - n) else toString n
  | 'a' => if n % 128 == 127 then "del"
    else names.getD (n % 128) (String.singleton (Char.ofNat (n % 128)))
  | _ =>
    let c := Char.ofNat n
    match signs.lookup c with
    | some sign => sign
    | none => if isPrintable c then String.singleton c else Raw.padLeft 3 '0' (Raw.inBase 8 n)

/-- A list in parts of a length.  The first argument bounds their number. -/
def chunks {α : Type} (size : Nat) : Nat → List α → List (List α)
  | 0, _ => []
  | _, [] => []
  | n + 1, xs => xs.take size :: chunks size n (xs.drop size)

/-- The items of a block in a line, which is as wide as the widest one of the same block. -/
def Shape.line (s : Shape) (perLine lineWidth : Nat) (block : List Char) : String :=
  let fields := perLine / s.size
  let pad := lineWidth - s.width * fields
  let items := chunks s.size (block.length + 1) block
  let padAt (i : Nat) : Nat := pad * i / fields
  let (text, left) := items.foldl
    (fun (text, left) bytes =>
      let width := padAt left - padAt (left - 1) + s.width
      (text ++ Raw.padLeft width ' ' (s.item bytes), left - 1))
    ("", fields)
  if s.trailer then
    let shown := block.map fun c => if isPrintable c then c else '.'
    text ++ String.ofList (List.replicate (left * s.width + pad * left / fields) ' ') ++ "  >"
      ++ String.ofList shown ++ "<"
  else text

/-- How `od` prints. -/
structure Layout where
  shapes : List Shape
  perLine : Nat
  radix : Char
  everything : Bool

/-- The place of a byte as it stands in front of a line. -/
def Layout.address (l : Layout) (place : Nat) : String :=
  match l.radix with
  | 'o' => Raw.padLeft 7 '0' (Raw.inBase 8 place)
  | 'd' => Raw.padLeft 7 '0' (toString place)
  | 'x' => Raw.padLeft 6 '0' (Raw.inBase 16 place)
  | _ => ""

/-- The lines of a block at a place. -/
def Layout.block (l : Layout) (place : Nat) (block : List Char) : String :=
  let lineWidth := (l.shapes.map fun s => (s.width + 1) * (l.perLine / s.size)).foldl max 0
  let address := l.address place
  let blank := String.ofList (List.replicate address.length ' ')
  let rows := l.shapes.map fun s => s.line l.perLine lineWidth block
  String.join ((rows.zip (address :: List.replicate rows.length blank)).map fun (row, front) =>
    front ++ row ++ "\n")

/-- The lines of all blocks; one that repeats the one before is only marked. -/
def Layout.lines (l : Layout) (start : Nat) (blocks : List (List Char)) : List String :=
  let step (state : Nat × Option (List Char) × Bool × List String) (block : List Char) :=
    let (place, before, marked, out) := state
    let next := place + block.length
    if !l.everything && before == some block && block.length == l.perLine then
      (next, before, true, if marked then out else "*\n" :: out)
    else (next, some block, false, l.block place block :: out)
  (blocks.foldl step (start, none, false, [])).2.2.2.reverse

/-- The sizes that letters stand for. -/
def sizeLetters : List (Char × Nat) :=
  [('C', 1), ('S', 2), ('I', 4), ('L', 8)]

/-- The shapes that a text describes.  The first argument bounds their number. -/
def shapesOf (whole : String) : Nat → List Char → Run (List Shape)
  | 0, _ => return []
  | _, [] => return []
  | n + 1, c :: cs => do
    let wrong {α : Type} : Run α :=
      die ("invalid character '" ++ String.singleton c ++ "' in type string " ++ quote whole)
    unless "acdoux".toList.contains c do wrong
    let (size, rest) : Nat × List Char :=
      if c == 'a' || c == 'c' then (1, cs)
      else
        let ds := cs.takeWhile Char.isDigit
        match Raw.digits? 10 ds, cs with
        | some size, _ => (size, cs.drop ds.length)
        | none, d :: rest =>
          match sizeLetters.lookup d with
          | some size => (size, rest)
          | none => (4, cs)
        | none, [] => (4, cs)
    unless [1, 2, 4, 8].contains size do
      die ("invalid type string " ++ quote whole ++ ";\nthis system doesn't provide a "
        ++ toString size ++ "-byte integral type")
    let trailer := rest.head? == some 'z'
    return ⟨c, size, trailer⟩ :: (← shapesOf whole n (if trailer then rest.tail else rest))

/-- The shapes of options that stand for one each. -/
def shortShapes : List (Char × Shape) :=
  [('a', ⟨'a', 1, false⟩), ('b', ⟨'o', 1, false⟩), ('c', ⟨'c', 1, false⟩), ('d', ⟨'u', 2, false⟩),
   ('h', ⟨'x', 2, false⟩), ('i', ⟨'d', 4, false⟩), ('l', ⟨'d', 8, false⟩), ('o', ⟨'o', 2, false⟩),
   ('s', ⟨'d', 2, false⟩), ('x', ⟨'x', 2, false⟩)]

/-- A number of bytes that an option gives: decimal, octal or hexadecimal, with a unit. -/
def byteCount (given : Given) (option : Char) : Run (Option Nat) := do
  match given.last? option with
  | none => return none
  | some text =>
    let n :=
      match text.toList with
      | '0' :: 'x' :: ds => Raw.digits? 16 ds
      | '0' :: d :: ds => Raw.digits? 8 (d :: ds)
      | _ => sized? text
    match n with
    | some n => return some n
    | none => die ("invalid -" ++ String.singleton option ++ " argument " ++ quote text)

/-- `od`. -/
def od : Tool := fun _ words => do
  let given ← Options.read
    { flags := "abcdhilosxv", values := "AtjNSE", maybes := "w"
      long := [("address-radix", 'A'), ("format", 't'), ("skip-bytes", 'j'), ("read-bytes", 'N'),
        ("strings", 'S'), ("output-duplicates", 'v'), ("width", 'w'), ("endian", 'E')] } words.tail
  let mut shapes := []
  let mut radix := 'o'
  for (c, value) in given.options do
    if c == 't' then shapes := shapes ++ (← shapesOf value (value.length + 1) value.toList)
    if let some s := shortShapes.lookup c then shapes := shapes ++ [s]
    if c == 'A' then
      match value.toList with
      | r :: _ =>
        unless "doxn".toList.contains r do
          die ("invalid output address radix '" ++ String.singleton r
            ++ "'; it must be one character from [doxn]")
        radix := r
      | [] => die "invalid output address radix ''; it must be one character from [doxn]"
  if shapes.isEmpty then shapes := [⟨'o', 2, false⟩]
  let skip := (← byteCount given 'j').getD 0
  let most ← byteCount given 'N'
  let least := (shapes.map Shape.size).foldl max 1
  let asked ←
    match given.last? 'w' with
    | none => pure 16
    | some "" => pure 32
    | some _ => pure ((← byteCount given 'w').getD 16)
  let perLine := if asked == 0 || asked % least != 0 then least else asked
  if perLine != asked then
    complain ("warning: invalid width " ++ toString asked ++ "; using " ++ toString perLine
      ++ " instead")
  let paths := if given.operands.isEmpty then ["-"] else given.operands
  let mut text := ""
  let mut opened := false
  for path in paths do
    match ← contentOf path with
    | .ok s =>
      opened := true
      text := text ++ s
    | .error e =>
      if e == .isDirectory || path == "-" then opened := true
      note ((if path == "-" then "'standard input'" else fileName path) ++ ": " ++ e.text)
  unless opened do leave 1
  if text.length < skip then die "cannot skip past end of combined input"
  let bytes := text.toList.drop skip
  let bytes := most.elim bytes bytes.take
  let layout : Layout := { shapes, perLine, radix, everything := given.has 'v' }
  let out := layout.lines skip (chunks perLine (bytes.length + 1) bytes)
  let last := if radix == 'n' then "" else layout.address (skip + bytes.length) ++ "\n"
  print (String.join out ++ last)
  if paths.contains "-" && (← Run.openFile? 0).isNone then
    note ("standard input: " ++ FileError.text .badDescriptor)

/-! ## Letters -/

/-- A way to write bytes in letters: how many bits a letter has, and how many letters stand
together. -/
structure Alphabet where
  bits : Nat
  group : Nat
  letters : Array Char

/-- Letters of six bits. -/
def sixBits : Alphabet :=
  ⟨6, 4, "ABCDEFGHIJKLMNOPQRSTUVWXYZabcdefghijklmnopqrstuvwxyz0123456789+/".toList.toArray⟩

/-- Letters of five bits. -/
def fiveBits : Alphabet :=
  ⟨5, 8, "ABCDEFGHIJKLMNOPQRSTUVWXYZ234567".toList.toArray⟩

/-- The letters for some bytes that make up one group or less. -/
def Alphabet.encodeGroup (a : Alphabet) (bytes : List Char) : String :=
  let whole := a.bits * a.group
  let n := bytes.foldl (fun n c => 256 * n + c.toNat) 0 * 2 ^ (whole - 8 * bytes.length)
  let used := (8 * bytes.length + a.bits - 1) / a.bits
  String.ofList ((List.range a.group).map fun i =>
    if i < used then a.letters.getD (n / 2 ^ (whole - a.bits * (i + 1)) % 2 ^ a.bits) '=' else '=')

/-- The letters for some bytes. -/
def Alphabet.encode (a : Alphabet) (s : String) : String :=
  String.join ((chunks (a.bits * a.group / 8) (s.length + 1) s.toList).map a.encodeGroup)

/-- The bytes that the letters of one group or less write. -/
def Alphabet.decodeGroup (a : Alphabet) (values : List Nat) : String :=
  let n := values.foldl (fun n v => n * 2 ^ a.bits + v) 0
  let total := a.bits * values.length
  String.ofList ((List.range (total / 8)).map fun i =>
    Char.ofNat (n / 2 ^ (total - 8 * (i + 1)) % 256))

/-- The bytes that letters write, and whether nothing is wrong with them.  The first argument bounds
the number of groups. -/
def Alphabet.decode (a : Alphabet) : Nat → List Char → String → String × Bool
  | 0, _, out => (out, true)
  | _, [], out => (out, true)
  | n + 1, cs, out =>
    let group := cs.take a.group
    let letters := group.takeWhile a.letters.contains
    let values := letters.filterMap fun c => a.letters.idxOf? c
    let part := a.decodeGroup values
    let padding := group.drop letters.length
    let fits := (8 * part.length + a.bits - 1) / a.bits == letters.length
    if letters.length == a.group then a.decode n (cs.drop a.group) (out ++ part)
    else if letters.length + padding.length == a.group && padding.all (· == '=') && fits
        && !part.isEmpty then
      a.decode n (cs.drop a.group) (out ++ part)
    else (if a.group == 4 then out ++ part else out, false)

/-- Letters in lines of a width. -/
def wrapped (width : Nat) (s : String) : String :=
  if width == 0 then s
  else String.join ((chunks width (s.length + 1) s.toList).map fun cs => String.ofList cs ++ "\n")

/-- `base64` and `base32`. -/
def inLetters (a : Alphabet) : Tool := fun _ words => do
  let given ← Options.read
    { flags := "di", values := "w"
      long := [("decode", 'd'), ("ignore-garbage", 'i'), ("wrap", 'w')] } words.tail
  match given.operands with
  | _ :: extra :: _ => misuse ("extra operand " ++ quote extra)
  | _ => pure ()
  let width ← natOf "invalid wrap size" 0 (2 ^ 63 - 1) ((given.last? 'w').getD "76")
  match ← contentOf (given.operands.headD "-") with
  | .error e =>
    if e == .isDirectory || e == .badDescriptor then die ("read error: " ++ e.text)
    die (fileName (given.operands.headD "-") ++ ": " ++ e.text)
  | .ok s =>
    if given.has 'd' then
      let isLetter (c : Char) : Bool := c == '=' || a.letters.contains c
      let cs := s.toList.filter fun c => c != '\n' && (!given.has 'i' || isLetter c)
      let (out, fine) := a.decode (cs.length + 1) cs ""
      print out
      unless fine do die "invalid input"
    else print (wrapped width (a.encode s))

/-! ## Texts among bytes -/

/-- `strings`. -/
def strings : Tool := fun _ words => do
  let given ← Options.read
    { flags := "afow", values := "net"
      long := [("all", 'a'), ("bytes", 'n'), ("print-file-name", 'f')] } words.tail
  let least := ((given.last? 'n').bind Raw.nat?).getD 4
  for (_, s) in ← contents given.operands do
    let isText (c : Char) : Bool := isPrintable c || c == '\t'
    let parts := (String.ofList (s.toList.map fun c => if isText c then c else '\n')).splitOn "\n"
    print (String.join ((parts.filter fun p => least ≤ p.length).map (· ++ "\n")))

end MonitorKeys.Shell.Tool.Dump
