import MonitorKeys.Shell.Tool

/-!
# Digests

Short texts that stand for the whole content of a file: `md5sum` and the programs of the family of
`sha256sum`, and the sums of `cksum` and `sum`.

A digest goes through the content in blocks, and each block changes the state of a few words.
-/

namespace MonitorKeys.Shell.Tool.Digest

/-! ## Blocks -/

/-- Content filled up to whole blocks: a bit, zeros, and its length in bits at the end. -/
def filled (block lengthBytes : Nat) (bigEndian : Bool) (content : ByteArray) : ByteArray :=
  let bits := 8 * content.size
  let zeros := (2 * block - 1 - lengthBytes - content.size % block) % block
  let withZeros := (List.replicate zeros (0 : UInt8)).foldl ByteArray.push (content.push 0x80)
  (List.range lengthBytes).foldl
    (fun bytes i =>
      let place := if bigEndian then lengthBytes - 1 - i else i
      bytes.push (UInt8.ofNat (bits / 256 ^ place)))
    withZeros

/-- The word of some bytes at a place. -/
def wordAt (size : Nat) (bigEndian : Bool) (content : ByteArray) (place : Nat) : Nat :=
  (List.range size).foldl
    (fun n i =>
      let j := if bigEndian then i else size - 1 - i
      256 * n + (content.get! (place + j)).toNat)
    0

/-- The words of a block. -/
def wordsAt (size count : Nat) (bigEndian : Bool) (content : ByteArray) (place : Nat) : Array Nat :=
  ((List.range count).map fun i => wordAt size bigEndian content (place + size * i)).toArray

/-- A word in hexadecimal digits, its bytes in the given order. -/
def hex (size : Nat) (bigEndian : Bool) (word : Nat) : String :=
  String.join ((List.range size).map fun i =>
    let place := if bigEndian then size - 1 - i else i
    Raw.padLeft 2 '0' (Raw.inBase 16 (word / 256 ^ place % 256)))

/-- The digest of content, given the state at the start and how a block changes it. -/
def digest {α : Type} (block lengthBytes : Nat) (bigEndian : Bool) (start : α)
    (step : α → ByteArray → Nat → α) (content : ByteArray) : α :=
  let whole := filled block lengthBytes bigEndian content
  (List.range (whole.size / block)).foldl (fun state i => step state whole (block * i)) start

/-! ## Words of 32 bits -/

/-- A word turned to the left. -/
def turn (x n : UInt32) : UInt32 :=
  (x <<< n) ||| (x >>> (32 - n))

/-- How far the steps of `md5` turn words. -/
def md5Turns : Array UInt32 :=
  #[7, 12, 17, 22, 5, 9, 14, 20, 4, 11, 16, 23, 6, 10, 15, 21]

/-- The constants of the steps of `md5`. -/
def md5Constants : Array UInt32 :=
  #[0xd76aa478, 0xe8c7b756, 0x242070db, 0xc1bdceee, 0xf57c0faf, 0x4787c62a, 0xa8304613, 0xfd469501,
    0x698098d8, 0x8b44f7af, 0xffff5bb1, 0x895cd7be, 0x6b901122, 0xfd987193, 0xa679438e, 0x49b40821,
    0xf61e2562, 0xc040b340, 0x265e5a51, 0xe9b6c7aa, 0xd62f105d, 0x02441453, 0xd8a1e681, 0xe7d3fbc8,
    0x21e1cde6, 0xc33707d6, 0xf4d50d87, 0x455a14ed, 0xa9e3e905, 0xfcefa3f8, 0x676f02d9, 0x8d2a4c8a,
    0xfffa3942, 0x8771f681, 0x6d9d6122, 0xfde5380c, 0xa4beea44, 0x4bdecfa9, 0xf6bb4b60, 0xbebfbc70,
    0x289b7ec6, 0xeaa127fa, 0xd4ef3085, 0x04881d05, 0xd9d4d039, 0xe6db99e5, 0x1fa27cf8, 0xc4ac5665,
    0xf4292244, 0x432aff97, 0xab9423a7, 0xfc93a039, 0x655b59c3, 0x8f0ccc92, 0xffeff47d, 0x85845dd1,
    0x6fa87e4f, 0xfe2ce6e0, 0xa3014314, 0x4e0811a1, 0xf7537e82, 0xbd3af235, 0x2ad7d2bb, 0xeb86d391]

/-- The state of `md5`. -/
structure Md5 where
  a : UInt32 := 0x67452301
  b : UInt32 := 0xefcdab89
  c : UInt32 := 0x98badcfe
  d : UInt32 := 0x10325476

/-- One step of `md5`. -/
def Md5.round (words : Array Nat) (s : Md5) (i : Nat) : Md5 :=
  let (f, g) : UInt32 × Nat :=
    if i < 16 then ((s.b &&& s.c) ||| (~~~s.b &&& s.d), i)
    else if i < 32 then ((s.d &&& s.b) ||| (~~~s.d &&& s.c), (5 * i + 1) % 16)
    else if i < 48 then (s.b ^^^ s.c ^^^ s.d, (3 * i + 5) % 16)
    else (s.c ^^^ (s.b ||| ~~~s.d), 7 * i % 16)
  let sum := f + s.a + md5Constants.getD i 0 + UInt32.ofNat (words.getD g 0)
  ⟨s.d, s.b + turn sum (md5Turns.getD (4 * (i / 16) + i % 4) 0), s.b, s.c⟩

/-- The digest of `md5sum`. -/
def md5 (content : ByteArray) : String :=
  let step (s : Md5) (whole : ByteArray) (place : Nat) : Md5 :=
    let words := wordsAt 4 16 false whole place
    let t := (List.range 64).foldl (Md5.round words) s
    ⟨s.a + t.a, s.b + t.b, s.c + t.c, s.d + t.d⟩
  let s := digest 64 8 false ({} : Md5) step content
  String.join ([s.a, s.b, s.c, s.d].map fun w => hex 4 false w.toNat)

/-- The state of `sha1sum`. -/
structure Sha1 where
  a : UInt32 := 0x67452301
  b : UInt32 := 0xefcdab89
  c : UInt32 := 0x98badcfe
  d : UInt32 := 0x10325476
  e : UInt32 := 0xc3d2e1f0

/-- One step of `sha1sum` with the word for it. -/
def Sha1.round (s : Sha1) (i : Nat) (word : UInt32) : Sha1 :=
  let (f, k) : UInt32 × UInt32 :=
    if i < 20 then ((s.b &&& s.c) ||| (~~~s.b &&& s.d), 0x5a827999)
    else if i < 40 then (s.b ^^^ s.c ^^^ s.d, 0x6ed9eba1)
    else if i < 60 then ((s.b &&& s.c) ||| (s.b &&& s.d) ||| (s.c &&& s.d), 0x8f1bbcdc)
    else (s.b ^^^ s.c ^^^ s.d, 0xca62c1d6)
  ⟨turn s.a 5 + f + s.e + k + word, s.a, turn s.b 30, s.c, s.d⟩

/-- The digest of `sha1sum`. -/
def sha1 (content : ByteArray) : String :=
  let step (s : Sha1) (whole : ByteArray) (place : Nat) : Sha1 :=
    let first := (wordsAt 4 16 true whole place).map UInt32.ofNat
    let words := (List.range 64).foldl
      (fun (w : Array UInt32) i =>
        let at_ (j : Nat) : UInt32 := w.getD (i + 16 - j) 0
        w.push (turn (at_ 3 ^^^ at_ 8 ^^^ at_ 14 ^^^ at_ 16) 1))
      first
    let t := (List.range 80).foldl (fun t i => t.round i (words.getD i 0)) s
    ⟨s.a + t.a, s.b + t.b, s.c + t.c, s.d + t.d, s.e + t.e⟩
  let s := digest 64 8 true ({} : Sha1) step content
  String.join ([s.a, s.b, s.c, s.d, s.e].map fun w => hex 4 true w.toNat)

/-! ## The longer digests -/

/-- The first eighty prime numbers. -/
def primes : List Nat :=
  ((List.range 410).drop 2).filter fun n =>
    ((List.range n).drop 2).all fun d => n % d != 0 || n < d * d && n % d != 0

/-- The whole part of a root, by halving an interval.  The first argument bounds the number of
steps. -/
def root (power n : Nat) : Nat → Nat → Nat → Nat
  | 0, low, _ => low
  | k + 1, low, high =>
    let middle := (low + high) / 2
    if high ≤ low + 1 then low
    else if middle ^ power ≤ n then root power n k middle high
    else root power n k low middle

/-- The first bits behind the point of a root. -/
def rootBits (power bits n : Nat) : Nat :=
  root power (n * 2 ^ (power * bits)) (bits + 20) 0 (n * 2 ^ bits) % 2 ^ bits

/-- What tells the longer digests apart. -/
structure Family where
  /-- The number of bits in a word. -/
  bits : Nat
  rounds : Nat
  /-- How far words are turned, and at last shifted, when words are made from others. -/
  small0 : Nat × Nat × Nat
  small1 : Nat × Nat × Nat
  /-- How far words are turned in a step. -/
  big0 : Nat × Nat × Nat
  big1 : Nat × Nat × Nat

/-- The family of `sha256sum`. -/
def short : Family :=
  ⟨32, 64, (7, 18, 3), (17, 19, 10), (2, 13, 22), (6, 11, 25)⟩

/-- The family of `sha512sum`. -/
def long : Family :=
  ⟨64, 80, (1, 8, 7), (19, 61, 6), (28, 34, 39), (14, 18, 41)⟩

namespace Family

/-- A word turned to the right. -/
def turned (f : Family) (x n : Nat) : Nat :=
  (x / 2 ^ n) ||| (x % 2 ^ n * 2 ^ (f.bits - n))

/-- The word of three turns. -/
def turns (f : Family) (by_ : Nat × Nat × Nat) (x : Nat) : Nat :=
  f.turned x by_.1 ^^^ f.turned x by_.2.1 ^^^ f.turned x by_.2.2

/-- The word of two turns and a shift. -/
def shifts (f : Family) (by_ : Nat × Nat × Nat) (x : Nat) : Nat :=
  f.turned x by_.1 ^^^ f.turned x by_.2.1 ^^^ (x / 2 ^ by_.2.2)

/-- The constants of the steps. -/
def constants (f : Family) : Array Nat :=
  ((primes.take f.rounds).map (rootBits 3 f.bits)).toArray

/-- One step. -/
def round (f : Family) (state : Array Nat) (constant word : Nat) : Array Nat :=
  let at_ (i : Nat) : Nat := state.getD i 0
  let limit := 2 ^ f.bits
  let choice := (at_ 4 &&& at_ 5) ^^^ ((limit - 1 - at_ 4) &&& at_ 6)
  let majority := (at_ 0 &&& at_ 1) ^^^ (at_ 0 &&& at_ 2) ^^^ (at_ 1 &&& at_ 2)
  let first := at_ 7 + f.turns f.big1 (at_ 4) + choice + constant + word
  let second := f.turns f.big0 (at_ 0) + majority
  #[(first + second) % limit, at_ 0, at_ 1, at_ 2, (at_ 3 + first) % limit, at_ 4, at_ 5, at_ 6]

/-- The digest of content from a state at the start, of which so many words count. -/
def apply (f : Family) (start : Array Nat) (bytes : Nat) (content : ByteArray) : String :=
  let size := f.bits / 8
  let constants := f.constants
  let limit := 2 ^ f.bits
  let step (state : Array Nat) (whole : ByteArray) (place : Nat) : Array Nat :=
    let words := (List.range (f.rounds - 16)).foldl
      (fun (w : Array Nat) i =>
        let at_ (j : Nat) : Nat := w.getD (i + 16 - j) 0
        w.push ((at_ 16 + f.shifts f.small0 (at_ 15) + at_ 7 + f.shifts f.small1 (at_ 2)) % limit))
      (wordsAt size 16 true whole place)
    let t := (List.range f.rounds).foldl
      (fun t i => f.round t (constants.getD i 0) (words.getD i 0)) state
    (state.zip t).map fun (a, b) => (a + b) % limit
  let state := digest (16 * size) (2 * size) true start step content
  ((String.join (state.toList.map (hex size true))).take (2 * bytes)).toString

end Family

/-- The digest of `sha256sum`. -/
def sha256 : ByteArray → String :=
  short.apply ((primes.take 8).map (rootBits 2 32)).toArray 32

/-- The digest of `sha224sum`. -/
def sha224 : ByteArray → String :=
  short.apply (((primes.drop 8).take 8).map fun p => rootBits 2 64 p % 2 ^ 32).toArray 28

/-- The digest of `sha512sum`. -/
def sha512 : ByteArray → String :=
  long.apply ((primes.take 8).map (rootBits 2 64)).toArray 64

/-- The digest of `sha384sum`. -/
def sha384 : ByteArray → String :=
  long.apply (((primes.drop 8).take 8).map (rootBits 2 64)).toArray 48

/-! ## Sums -/

/-- A remainder with one more byte. -/
def remainderStep (r : UInt32) (b : UInt8) : UInt32 :=
  (List.range 8).foldl
    (fun r i =>
      let bit := (UInt32.ofNat (b.toNat / 2 ^ (7 - i) % 2)) ^^^ (r >>> 31)
      if bit == 1 then (r <<< 1) ^^^ 0x04c11db7 else r <<< 1)
    r

/-- The bytes of a length, the least significant one first, without zeros behind them.  The first
argument bounds their number. -/
def lengthBytes : Nat → Nat → List UInt8
  | 0, _ | _, 0 => []
  | n + 1, size => UInt8.ofNat size :: lengthBytes n (size / 256)

/-- The remainder of `cksum`. -/
def remainder (content : ByteArray) : Nat :=
  let r := content.foldl remainderStep 0
  (~~~((lengthBytes 10 content.size).foldl remainderStep r)).toNat

/-- The sum of `sum`, which is turned to the right before each byte. -/
def turningSum (content : ByteArray) : Nat :=
  content.foldl (fun s b => (s / 2 + s % 2 * 32768 + b.toNat) % 65536) 0

/-- The sum of all bytes in sixteen bits, what is too much for them added again. -/
def plainSum (content : ByteArray) : Nat :=
  let s := content.foldl (fun s b => s + b.toNat) 0
  let r := s % 65536 + s % 2 ^ 32 / 65536
  r % 65536 + r / 65536

/-! ## The programs -/

/-- The content of a file, or of the input. -/
def bytesOf (s : String) : ByteArray :=
  Raw.store .empty s

/-- Do something with each file; what cannot be read is noted. -/
def forFiles (paths : List String) (show_ : String → ByteArray → Run Unit) : Run Unit := do
  for path in if paths.isEmpty then ["-"] else paths do
    match ← contentOf path with
    | .ok s => show_ path (bytesOf s)
    | .error e => note (fileName path ++ ": " ++ e.text)
  if (paths.isEmpty || paths.contains "-") && (← Run.openFile? 0).isNone then
    note ("standard input: " ++ FileError.text .badDescriptor)

/-- Compare the files that a list names with the digests in it. -/
def check (length : Nat) (apply : ByteArray → String) (given : Given) : Run Unit := do
  let lists := if given.operands.isEmpty then ["-"] else given.operands
  let quiet := given.has 'Q'
  let silent := given.has 'S'
  for list in lists do
    let name := if list == "-" then "'standard input'" else fileName list
    match ← contentOf list with
    | .error e => note (fileName list ++ ": " ++ e.text)
    | .ok text =>
      let mut good := 0
      let mut bad := 0
      let mut unread := 0
      for line in Raw.lines text do
        let sum := (line.take length).toString
        let rest := (line.drop length).toString
        let fits := sum.length == length && (Raw.digits? 16 sum.toList).isSome
          && (rest.startsWith "  " || rest.startsWith " *") && 2 < rest.length
        if fits then
          let path := (rest.drop 2).toString
          match ← contentOf path with
          | .error e =>
            unread := unread + 1
            complain (fileName path ++ ": " ++ e.text)
            unless silent do print (path ++ ": FAILED open or read\n")
          | .ok s =>
            if apply (bytesOf s) == sum.toLower then
              good := good + 1
              unless silent || quiet do print (path ++ ": OK\n")
            else
              bad := bad + 1
              unless silent do print (path ++ ": FAILED\n")
      if good + bad + unread == 0 then
        note (name ++ ": no properly formatted checksum lines found")
      else
        let some_ (n : Nat) (one many : String) : String := toString n ++ (if n == 1 then one else many)
        unless silent do
          if unread != 0 then
            complain ("WARNING: " ++ some_ unread " listed file could not be read"
              " listed files could not be read")
          if bad != 0 then
            complain ("WARNING: " ++ some_ bad " computed checksum did NOT match"
              " computed checksums did NOT match")
        if bad + unread != 0 then Run.setStatus 1

/-- A program that prints digests of some length in hexadecimal digits. -/
def program (label : String) (length : Nat) (apply : ByteArray → String) : Tool := fun _ words => do
  let given ← Options.read
    { flags := "bctzwTQSI"
      long := [("binary", 'b'), ("check", 'c'), ("text", 't'), ("zero", 'z'), ("warn", 'w'),
        ("tag", 'T'), ("quiet", 'Q'), ("status", 'S'), ("ignore-missing", 'I')] } words.tail
  if given.has 'c' then check length apply given
  else
    forFiles given.operands fun path content => do
      let ending := if given.has 'z' then "\x00" else "\n"
      let sum := apply content
      printBriefly (if given.has 'T' then label ++ " (" ++ path ++ ") = " ++ sum ++ ending
        else sum ++ (if given.lastOf? "bt" == some 'b' then " *" else "  ") ++ path ++ ending)

/-- `cksum`. -/
def cksum : Tool := fun _ words => do
  let given ← Options.read { flags := "z", long := [("zero", 'z')] } words.tail
  forFiles given.operands fun path content =>
    printBriefly (toString (remainder content) ++ " " ++ toString content.size
      ++ (if given.operands.isEmpty then "" else " " ++ path) ++ "\n")

/-- `sum`. -/
def sum : Tool := fun _ words => do
  let given ← Options.read { flags := "rs", long := [("sysv", 's')] } words.tail
  forFiles given.operands fun path content => do
    let name := if given.operands.isEmpty then "" else " " ++ path
    printBriefly
      (if given.lastOf? "rs" == some 's' then
        toString (plainSum content) ++ " " ++ toString ((content.size + 511) / 512) ++ name ++ "\n"
      else
        Raw.padLeft 5 '0' (toString (turningSum content)) ++ " "
          ++ Raw.padLeft 5 ' ' (toString ((content.size + 1023) / 1024)) ++ name ++ "\n")

end MonitorKeys.Shell.Tool.Digest
