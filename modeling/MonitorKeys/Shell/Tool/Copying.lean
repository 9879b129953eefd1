import MonitorKeys.Shell.Tool

/-!
# Programs that copy their input

`cat`, `tee`, `head`, `tail`, `tac`, `rev`, `yes` and `dd`: what they print is what they read, or a
part of it, as it is.
-/

namespace MonitorKeys.Shell.Tool

/-! ## Numbers with units -/

/-- The factors that units stand for. -/
def units : List (String × Nat) :=
  [("", 1), ("b", 512), ("c", 1), ("w", 2), ("kB", 1000), ("K", 1024), ("k", 1024), ("KiB", 1024),
   ("MB", 10 ^ 6), ("M", 2 ^ 20), ("MiB", 2 ^ 20), ("GB", 10 ^ 9), ("G", 2 ^ 30), ("GiB", 2 ^ 30),
   ("TB", 10 ^ 12), ("T", 2 ^ 40), ("TiB", 2 ^ 40)]

/-- The number that digits and a unit write. -/
def sized? (s : String) : Option Nat := do
  let ds := s.toList.takeWhile Char.isDigit
  let n ← Raw.digits? 10 ds
  let factor ← units.lookup (s.drop ds.length).toString
  return n * factor

/-! ## Showing characters -/

/-- A character in visible signs, as `cat -v` shows it. -/
def visible (c : Char) : String :=
  let low (n : Nat) : String :=
    if n < 32 then "^" ++ String.singleton (Char.ofNat (n + 64))
    else if n = 127 then "^?"
    else String.singleton (Char.ofNat n)
  if c.toNat < 128 then low c.toNat else "M-" ++ low (c.toNat - 128)

/-- What `cat` does with each line. -/
structure Display where
  number : Bool
  numberFilled : Bool
  squeeze : Bool
  ends : Bool
  tabs : Bool
  signs : Bool

/-- A text in the display of `cat`: the lines are numbered from `count` on, and `empties` is how many
empty lines came just before. -/
def Display.lines (d : Display) : List String → Nat → Nat → List String → List String × Nat × Nat
  | [], count, empties, out => (out, count, empties)
  | line :: rest, count, empties, out =>
    let isEmpty := line == "\n"
    let empties' := if isEmpty then empties + 1 else 0
    if d.squeeze && 2 ≤ empties' then d.lines rest count empties' out
    else
      let counts := (d.number && !d.numberFilled) || (d.numberFilled && !isEmpty)
      let front := if counts then Raw.padLeft 6 ' ' (toString count) ++ "\t" else ""
      let shown := line.toList.map fun c =>
        if c == '\n' then (if d.ends then "$\n" else "\n")
        else if c == '\t' then (if d.tabs then "^I" else "\t")
        else if d.signs then visible c
        else String.singleton c
      let cr := d.ends && !d.signs && line.endsWith "\r\n"
      let body := if cr then (line.dropEnd 2).toString ++ "^M$\n" else String.join shown
      d.lines rest (if counts then count + 1 else count) empties' ((front ++ body) :: out)

/-- Lines with their ends. -/
def keptLines (s : String) : List String :=
  let parts := s.splitOn "\n"
  let complete := parts.dropLast.map (· ++ "\n")
  match parts.getLast? with
  | some "" | none => complete
  | some last => complete ++ [last]

/-- Whether the output is the file that is to be read, with something left to read. -/
def readsOutput (path : String) : Run Bool := do
  let node? (descriptor : Nat) : Run (Option (Nat × Nat)) := do
    match ← Run.openFile? descriptor with
    | some (_, { target := .node n _, place, .. }) => return some (n, place)
    | _ => return none
  match ← node? 1 with
  | none => return false
  | some (out, _) =>
    match (← Run.system).tree.node? out with
    | some (.file content _) =>
      let (same, place) ←
        if path == "-" then do
          match ← node? 0 with
          | some (n, place) => pure (n == out, place)
          | none => pure (false, 0)
        else do
          match ← Run.resolve path with
          | .ok found => pure (found.number == some out, 0)
          | .error _ => pure (false, 0)
      return same && place < content.size
    | _ => return false

/-- `cat`. -/
def cat : Tool := fun _ words => do
  let given ← Options.read
    { flags := "AbeEnstTuv"
      long := [("show-all", 'A'), ("number-nonblank", 'b'), ("show-ends", 'E'), ("number", 'n'),
        ("squeeze-blank", 's'), ("show-tabs", 'T'), ("show-nonprinting", 'v')] } words.tail
  let any (cs : String) : Bool := cs.toList.any given.has
  let display : Display :=
    { number := given.has 'n', numberFilled := given.has 'b', squeeze := given.has 's'
      ends := any "AeE", tabs := any "AtT", signs := any "Aetv" }
  let plain := !any "AbeEnstTv"
  if (← Run.openFile? 1).isNone then
    die ("standard output: " ++ FileError.text .badDescriptor)
  let mut count := 1
  let mut empties := 0
  for path in if given.operands.isEmpty then ["-"] else given.operands do
    if ← readsOutput path then note (fileName path ++ ": input file is output file")
    else
      match ← contentOf path with
      | .error e => note (fileName path ++ ": " ++ e.text)
      | .ok s =>
        if plain then print s
        else
          let (out, count', empties') := display.lines (keptLines s) count empties []
          count := count'
          empties := empties'
          print (String.join out.reverse)
  if (← Run.openFile? 0).isNone && (given.operands.isEmpty || given.operands.contains "-") then
    note ("closing standard input: " ++ FileError.text .badDescriptor)

/-- `tee`. -/
def tee : Tool := fun _ words => do
  let given ← Options.read
    { flags := "aip", long := [("append", 'a'), ("ignore-interrupts", 'i')] } words.tail
  let opening : Opening := if given.has 'a' then .append else .write
  let mut files := []
  for path in given.operands do
    match ← Run.openPath path opening with
    | .ok file => files := (path, file) :: files
    | .error e => note (fileName path ++ ": " ++ e.text)
  match ← Run.read 0 with
  | .error e => die ("read error: " ++ e.text)
  | .ok s =>
    match ← Run.write 1 s with
    | none => pure ()
    | some e => note ("'standard output': " ++ e.text)
    for (path, file) in files.reverse do
      match (← Run.system).files[file]? with
      | none => pure ()
      | some opened =>
        match ← Run.writeTo file opened s with
        | none => pure ()
        | some e => note (fileName path ++ ": " ++ e.text)

/-! ## Parts of a file -/

/-- A part of a file that is counted in lines or bytes. -/
structure Extent where
  inBytes : Bool := false
  count : Nat := 10
  /-- Whether the count is one from the other end. -/
  fromOther : Bool := false

/-- The beginning of a text that `head` prints. -/
def Extent.head (e : Extent) (s : String) : String :=
  let count (whole : Nat) := if e.fromOther then whole - e.count else e.count
  if e.inBytes then (s.take (count s.length)).toString
  else
    let all := keptLines s
    String.join (all.take (count all.length))

/-- The end of a text that `tail` prints. -/
def Extent.tail (e : Extent) (s : String) : String :=
  let start (whole : Nat) := if e.fromOther then e.count - 1 else whole - e.count
  if e.inBytes then (s.drop (start s.length)).toString
  else
    let all := keptLines s
    String.join (all.drop (start all.length))

/-- The line above the part of a file where there are several. -/
def heading (first : Bool) (path : String) : String :=
  (if first then "" else "\n") ++ "==> " ++ (if path == "-" then "standard input" else path)
    ++ " <==\n"

/-- Print a part of each file; `reads` gets the part of an open file. -/
def printParts (given : Given) (readVerb : String) (reads : Option Nat → Run String) : Run Unit := do
  let paths := if given.operands.isEmpty then ["-"] else given.operands
  let headings := given.has 'v' || (1 < paths.length && !given.has 'q')
  let mut first := true
  for path in paths do
    let opened ←
      if path == "-" then pure (Except.ok none)
      else do
        match ← Run.openPath path .read with
        | .ok file => pure (.ok (some file))
        | .error e => pure (.error e)
    match opened with
    | .error e => note ("cannot open '" ++ path ++ "' for reading: " ++ e.text)
    | .ok file =>
      if headings then
        print (heading first path)
        first := false
      let action : Run String := reads file
      let name := if path == "-" then "standard input" else path
      let target : Option (Nat × OpenFile) ←
        match file with
        | some n => pure (((← Run.system).files[n]?).map (n, ·))
        | none => Run.openFile? 0
      match target with
      | none => note ("error reading '" ++ name ++ "': " ++ FileError.text .badDescriptor)
      | some (_, { target := .node n _, .. }) =>
        match (← Run.system).tree.node? n with
        | some (.directory _) =>
          note (readVerb ++ " '" ++ name ++ "': " ++ FileError.text .isDirectory)
        | _ => print (← action)
      | some _ => print (← action)

/-- Read from an open file, or from the input. -/
def readOpen (file : Option Nat) (count : Option Nat) : Run String := do
  match file with
  | none => return (← Run.read 0 count).toOption.getD ""
  | some n =>
    match (← Run.system).files[n]? with
    | some opened => return (← Run.readFrom n opened count).toOption.getD ""
    | none => return ""

/-- The extent that a count writes for an option. -/
def extentOf (inBytes : Bool) (sign : Char) (text : String) : Run Extent := do
  let other := text.startsWith (String.singleton sign)
  let digits := if text.startsWith "-" || text.startsWith "+" then (text.drop 1).toString else text
  let wrong := "invalid number of " ++ (if inBytes then "bytes" else "lines") ++ ": " ++ quote text
  match sized? digits with
  | none => die wrong
  | some n =>
    if 2 ^ 64 ≤ n then die (wrong ++ ": " ++ SystemError.text 75)
    return { inBytes, count := n, fromOther := other }

/-- The count that stands right behind a hyphen, as in `-5`, and the other arguments. -/
def bareCount (arguments : List String) : Run (Option Extent × List String) := do
  match arguments with
  | first :: rest =>
    match first.toList with
    | '-' :: d :: cs =>
      if !d.isDigit then return (none, arguments)
      let ds := (d :: cs).takeWhile Char.isDigit
      let letters := cs.drop (ds.length - 1)
      let n := (Raw.digits? 10 ds).getD 0
      match letters.find? fun c => !"cbkmlqv".toList.contains c with
      | some c => misuse ("invalid trailing option -- " ++ String.singleton c)
      | none =>
        let factor := if letters.contains 'b' then 512 else if letters.contains 'k' then 1024
          else if letters.contains 'm' then 2 ^ 20 else 1
        let inBytes := letters.any "cbkm".toList.contains
        return (some { inBytes, count := n * factor }, rest)
    | _ => return (none, arguments)
  | [] => return (none, [])

/-- The extent that the last option for one asks for. -/
def givenExtent (given : Given) (sign : Char) (usual : Extent) : Run Extent := do
  let mut extent := usual
  for (c, value) in given.options do
    if c == 'n' || c == 'c' then extent ← extentOf (c == 'c') sign value
  return extent

/-- `head`. -/
def head : Tool := fun _ words => do
  let (bare, arguments) ← bareCount words.tail
  let given ← Options.read
    { flags := "qvz", values := "nc"
      long := [("lines", 'n'), ("bytes", 'c'), ("quiet", 'q'), ("silent", 'q'), ("verbose", 'v'),
        ("zero-terminated", 'z')] } arguments
  let extent ← givenExtent given '-' (bare.getD {})
  printParts given "error reading" fun file => do
    if extent.inBytes && !extent.fromOther then readOpen file (some extent.count)
    else
      let s ← readOpen file none
      let part := extent.head s
      if file.isNone then
        let _ ← Run.giveBack 0 (s.length - part.length)
      return part

/-- `tail`. -/
def tail : Tool := fun _ words => do
  let (bare, arguments) ←
    match words.tail with
    | first :: rest =>
      if first.startsWith "+" && ((first.drop 1).toString.toList.head?.any Char.isDigit) then do
        let ds := (first.drop 1).toString.toList.takeWhile Char.isDigit
        let inBytes := first.endsWith "c"
        pure (some ({ inBytes, count := (Raw.digits? 10 ds).getD 0, fromOther := true } : Extent),
          rest)
      else bareCount words.tail
    | [] => pure (none, [])
  let given ← Options.read
    { flags := "qvzfFr", values := "ncs"
      long := [("lines", 'n'), ("bytes", 'c'), ("quiet", 'q'), ("silent", 'q'), ("verbose", 'v'),
        ("zero-terminated", 'z'), ("follow", 'f'), ("retry", 'r')] } arguments
  let extent ← givenExtent given '+' (bare.getD {})
  printParts given "error reading" fun file => return extent.tail (← readOpen file none)

/-! ## The other way round -/

/-- `tac`. -/
def tac : Tool := fun _ words => do
  let given ← Options.read { flags := "br", values := "s" } words.tail
  for path in if given.operands.isEmpty then ["-"] else given.operands do
    match ← contentOf path with
    | .ok s => print (String.join (keptLines s).reverse)
    | .error .isDirectory => note (fileName path ++ ": read error: " ++ FileError.text .isDirectory)
    | .error e => note ("failed to open '" ++ path ++ "' for reading: " ++ e.text)

/-- `rev`. -/
def rev : Tool := fun _ words => do
  let given ← Options.read { flags := "0" } words.tail
  for path in if given.operands.isEmpty then ["-"] else given.operands do
    match ← contentOf path with
    | .ok s =>
      print (String.join ((keptLines s).map fun line =>
        let cs := line.toList
        if line.endsWith "\n" then String.ofList (cs.dropLast.reverse ++ ['\n'])
        else String.ofList cs.reverse))
    | .error e => note ("cannot open " ++ path ++ ": " ++ e.text)

/-! ## Without an end -/

/-- Print a text again and again, until nobody reads it. -/
def printForever (s : String) : Nat → Run Unit
  | 0 => throw .expired
  | n + 1 => do
    match ← Run.write 1 s with
    | some e => die ("standard output: " ++ e.text)
    | none =>
      match ← Run.openFile? 1 with
      | some (_, { target := .pipe k, .. }) =>
        if Run.endless < ((← Run.system).pipes.getD k {}).content.size then throw (.killed 13)
        printForever s n
      | _ => printForever s n

/-- `yes`. -/
def yes : Tool := fun _ words => do
  let given ← Options.read {} words.tail
  let line := (if given.operands.isEmpty then "y" else " ".intercalate given.operands) ++ "\n"
  let block := String.join (List.replicate (8192 / line.length + 1) line)
  printForever block 10000

/-! ## Blocks -/

/-- The conversions of `dd`. -/
def conversions : List (String × (Char → Char)) :=
  [("ucase", Char.toUpper), ("lcase", Char.toLower), ("notrunc", id), ("sync", id), ("fsync", id),
   ("fdatasync", id), ("noerror", id), ("excl", id), ("nocreat", id), ("swab", id), ("block", id),
   ("unblock", id), ("ascii", id), ("ebcdic", id), ("ibm", id), ("sparse", id)]

/-- A count of blocks in the report of `dd`: whole ones, and whether there is one in part. -/
def blockCount (bytes size : Nat) : String :=
  toString (bytes / size) ++ "+" ++ (if bytes % size == 0 then "0" else "1")

/-- `dd`. -/
def dd : Tool := fun _ words => do
  let mut operands : List (String × String) := []
  for word in words.tail do
    let name := String.ofList (word.toList.takeWhile (· != '='))
    let value := (word.drop (name.length + 1)).toString
    if name.length == word.length || !(["if", "of", "bs", "ibs", "obs", "cbs", "count",
        "skip", "seek", "conv", "status", "iflag", "oflag", "iseek", "oseek"].contains name) then
      misuse ("unrecognized operand '" ++ word ++ "'")
    operands := (name, value) :: operands
  let known := operands
  let size (name : String) (usual : Nat) : Run Nat :=
    match known.lookup name with
    | none => return usual
    | some s =>
      match sized? s with
      | some n => return n
      | none => die ("invalid number: '" ++ s ++ "'")
  let bs ← size "bs" 512
  let ibs ← if known.any (·.1 == "bs") then pure bs else size "ibs" 512
  let obs ← if known.any (·.1 == "bs") then pure bs else size "obs" 512
  let skip ← size (if known.any (·.1 == "iseek") then "iseek" else "skip") 0
  let seek ← size (if known.any (·.1 == "oseek") then "oseek" else "seek") 0
  let count ← if known.any (·.1 == "count") then some <$> size "count" 0 else pure none
  if ibs == 0 || obs == 0 then die "invalid number: '0'"
  let named := ((known.lookup "conv").getD "").splitOn ","
  let mut change : Char → Char := id
  let mut keepsOutput := false
  for name in named do
    unless name.isEmpty do
      match conversions.lookup name with
      | some f => change := if name == "ucase" || name == "lcase" then f else change
      | none => misuse ("invalid conversion: '" ++ name ++ "'")
      if name == "notrunc" then keepsOutput := true
  let input ←
    match known.lookup "if" with
    | none => pure none
    | some path =>
      match ← Run.openPath path .read with
      | .ok file => pure (some file)
      | .error e => die ("failed to open '" ++ path ++ "': " ++ e.text)
  if skip != 0 then
    let _ ← readOpen input (some (skip * ibs))
  let s ← readOpen input (count.map (· * ibs))
  let out := s.map change
  let failed ←
    match known.lookup "of" with
    | none =>
      match ← Run.write 1 out with
      | none => pure none
      | some e => pure (some ("standard output", e))
    | some path =>
      match ← Run.openPath path (if keepsOutput || seek != 0 then .readWrite else .write) with
      | .error e => die ("failed to open '" ++ path ++ "': " ++ e.text)
      | .ok file =>
        Run.moveTo file (seek * obs)
        match (← Run.system).files[file]? with
        | none => pure none
        | some opened =>
          match ← Run.writeTo file opened out with
          | none => pure none
          | some e => pure (some (path, e))
  match failed with
  | some (path, e) => note ("error writing '" ++ path ++ "': " ++ e.text)
  | none => pure ()
  let status := (known.lookup "status").getD ""
  let written := if failed.isSome then 0 else out.length
  unless status == "none" do
    Run.warn (blockCount s.length ibs ++ " records in\n" ++ blockCount written obs
      ++ " records out\n")
    unless status == "noxfer" do
      Run.warn (toString written ++ (if written == 1 then " byte" else " bytes")
        ++ " copied, 0.0001 s, " ++ toString (written / 100) ++ " kB/s\n")

end MonitorKeys.Shell.Tool
