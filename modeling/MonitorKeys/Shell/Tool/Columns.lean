import MonitorKeys.Shell.Tool.Copying

/-!
# Columns of lines

`cut` and `paste` take lines apart and put them together, `fold` breaks them, and `expand` and
`unexpand` turn tabs into blanks and back.
-/

namespace MonitorKeys.Shell.Tool.Columns

/-! ## Parts of lines -/

/-- A range of places, which are counted from one; it can be open at its end. -/
abbrev Range := Nat × Option Nat

/-- What the places of `cut` count. -/
inductive Item where
  | bytes
  | fields
  deriving DecidableEq, Repr

namespace Item

/-- What is said about a text that is no place. -/
def invalid : Item → String → String
  | bytes, s => "invalid byte/character position " ++ quote s
  | fields, s => "invalid field value " ++ quote s

/-- What is said about a place that is too great. -/
def tooLarge : Item → String → String
  | bytes, s => "byte/character offset " ++ quote s ++ " is too large"
  | fields, s => "field number " ++ quote s ++ " is too large"

/-- What is said about the place zero. -/
def fromOne : Item → String
  | bytes => "byte/character positions are numbered from 1"
  | fields => "fields are numbered from 1"

/-- What is said about a range with several hyphens. -/
def badRange : Item → String
  | bytes => "invalid byte or character range"
  | fields => "invalid field range"

end Item

/-- The place that digits write, where a text stands behind them in the list. -/
def placeOf (item : Item) (whole after : List Char) : Run Nat := do
  let ds := whole.takeWhile Char.isDigit
  let n := (Raw.digits? 10 ds).getD 0
  if 2 ^ 64 - 1 ≤ n then misuse (item.tooLarge (String.ofList ds))
  unless ds.length == whole.length do
    misuse (item.invalid (String.ofList (whole.drop ds.length ++ after)))
  return n

/-- The range that a text without commas writes, where another text stands behind it. -/
def rangeOf (item : Item) (s after : List Char) : Run Range := do
  let front := s.takeWhile (· != '-')
  match s.drop front.length with
  | [] =>
    let n ← placeOf item front after
    if n == 0 then misuse item.fromOne
    return (n, some n)
  | sign :: back =>
    let first ← placeOf item front (sign :: back ++ after)
    if back.contains '-' then misuse item.badRange
    if !front.isEmpty && first == 0 then misuse item.fromOne
    let last ← placeOf item back after
    if front.isEmpty && back.isEmpty then misuse "invalid range with no endpoint: -"
    if back.isEmpty then return (first, none)
    if last < max first 1 then misuse "invalid decreasing range"
    return (max first 1, some last)

/-- The ranges that a list writes, in its order.  The first argument bounds their number. -/
def listed (item : Item) : Nat → List Char → Run (List Range)
  | 0, _ => return []
  | n + 1, s => do
    let isComma (c : Char) := c == ',' || c == ' ' || c == '\t'
    let part := s.takeWhile (!isComma ·)
    let after := s.drop part.length
    let r ← rangeOf item part after
    if after.isEmpty then return [r]
    return r :: (← listed item n after.tail)

/-- Put a range behind others that begin before it, or join it with the last one where they
overlap. -/
def joinRange (soFar : List Range) (r : Range) : List Range :=
  match soFar with
  | (a, b) :: rest =>
    match b with
    | none => soFar
    | some last =>
      if r.1 ≤ last then (a, r.2.map fun x => max x last) :: rest else r :: soFar
  | [] => [r]

/-- Ranges in their order, those that overlap joined. -/
def ordered (rs : List Range) : List Range :=
  ((rs.mergeSort fun a b => a.1 ≤ b.1).foldl joinRange []).reverse

/-- The ranges of the places outside of some, which follow each other; the first place is given. -/
def outside (start : Nat) : List Range → List Range
  | [] => [(start, none)]
  | (a, none) :: _ => if start < a then [(start, some (a - 1))] else []
  | (a, some b) :: rest =>
    if start < a then (start, some (a - 1)) :: outside (b + 1) rest else outside (b + 1) rest

/-- The ranges that a list writes, or those outside of them. -/
def rangesOf (item : Item) (complement : Bool) (s : String) : Run (List Range) := do
  let rs := ordered (← listed item (s.length + 1) s.toList)
  return if complement then outside 1 rs else rs

/-- The items of a list at the places of a range. -/
def within {α : Type} (items : List α) (r : Range) : List α :=
  let rest := items.drop (r.1 - 1)
  match r.2 with
  | none => rest
  | some last => rest.take (last + 1 - max r.1 1)

/-- The parts of a line at some places. -/
def cutBytes (rs : List Range) (glue : Option String) (line : String) : String :=
  let parts := (rs.map (within line.toList)).filter (!·.isEmpty)
  (glue.getD "").intercalate (parts.map String.ofList)

/-- The fields of a line at some places; `none` where the line is left out. -/
def cutFields (rs : List Range) (sign : String) (glue : Option String) (onlyDivided : Bool)
    (line : String) : Option String :=
  let fields := line.splitOn sign
  if fields.length < 2 then if onlyDivided then none else some line
  else some ((glue.getD sign).intercalate (rs.flatMap (within fields)))

/-- `cut`. -/
def cut : Tool := fun _ words => do
  let given ← Options.read
    { flags := "nszC", values := "bcfdo"
      long := [("bytes", 'b'), ("characters", 'c'), ("fields", 'f'), ("delimiter", 'd'),
        ("only-delimited", 's'), ("zero-terminated", 'z'), ("complement", 'C'),
        ("output-delimiter", 'o')] } words.tail
  for (c, value) in given.options do
    if c == 'd' && 1 < value.length then misuse "the delimiter must be a single character"
  let lists := given.options.filter fun o => o.1 == 'b' || o.1 == 'c' || o.1 == 'f'
  match lists with
  | [] => misuse "you must specify a list of bytes, characters, or fields"
  | (letter, list) :: others =>
    unless others.isEmpty do misuse "only one list may be specified"
    let item := if letter == 'f' then Item.fields else .bytes
    if item == .bytes && given.has 'd' then
      misuse "an input delimiter may be specified only when operating on fields"
    if item == .bytes && given.has 's' then
      misuse "suppressing non-delimited lines makes sense\n\tonly when operating on fields"
    let rs ← rangesOf item (given.has 'C') list
    let sign := match given.last? 'd' with
      | none => "\t"
      | some "" => "\x00"
      | some s => s
    let ending := if given.has 'z' then "\x00" else "\n"
    for (_, text) in ← contents given.operands do
      let lines := text.splitOn ending
      let lines := if lines.getLast? == some "" then lines.dropLast else lines
      let out :=
        if item == .bytes then lines.map (cutBytes rs (given.last? 'o'))
        else if sign == ending then
          let fields := rs.flatMap (within lines)
          [(given.last? 'o').getD sign |>.intercalate fields]
        else lines.filterMap (cutFields rs sign (given.last? 'o') (given.has 's'))
      print (String.join (out.map (· ++ ending)))
    closeInput given.operands

/-! ## Lines side by side -/

/-- The texts that stand between the parts of a line: characters, some of them written with a
backslash. -/
def separators : List Char → Option (List String)
  | [] => some []
  | ['\\'] => none
  | '\\' :: c :: rest => do
    let text := match c with
      | '0' => ""
      | 'n' => "\n"
      | 't' => "\t"
      | 'b' => "\x08"
      | 'f' => "\x0c"
      | 'r' => "\r"
      | 'v' => "\x0b"
      | c => String.singleton c
    return text :: (← separators rest)
  | c :: rest => do return String.singleton c :: (← separators rest)

/-- Parts with separators between them, which are used one after the other again and again. -/
def joined (signs : Array String) (place : Nat) : List String → String
  | [] => ""
  | [s] => s
  | s :: rest =>
    let sign := signs.getD (if signs.isEmpty then 0 else place % signs.size) ""
    s ++ sign ++ joined signs (place + 1) rest

/-- The lines of files side by side, as long as one of them has lines left.  The input can be among
the files several times; then these take turns.  The first argument bounds the number of lines. -/
def beside (signs : Array String) :
    Nat → List Bool → List (List String) → List String → List String
  | 0, _, _, out => out.reverse
  | n + 1, isInput, files, out =>
    let step := (isInput.zip files).foldl
      (fun (row, rest, input, any) (isInput, lines) =>
        let lines := if isInput then input.getD lines else lines
        match lines with
        | line :: others =>
          (line :: row, others :: rest, if isInput then some others else input, true)
        | [] => ("" :: row, [] :: rest, if isInput then some [] else input, any))
      (([] : List String), ([] : List (List String)), (none : Option (List String)), false)
    let (row, rest, input, any) := step
    if !any then out.reverse
    else
      let rest := (isInput.zip rest.reverse).map fun (isInput, lines) =>
        if isInput then input.getD lines else lines
      beside signs n isInput rest (joined signs 0 row.reverse :: out)

/-- `paste`. -/
def paste : Tool := fun _ words => do
  let given ← Options.read
    { flags := "sz", values := "d"
      long := [("serial", 's'), ("delimiters", 'd'), ("zero-terminated", 'z')] } words.tail
  let list := (given.last? 'd').getD "\t"
  let some signs := separators list.toList
    | die ("delimiter list ends with an unescaped backslash: " ++ list)
  let signs := signs.toArray
  let ending := if given.has 'z' then "\x00" else "\n"
  let linesOf (s : String) : List String :=
    let parts := s.splitOn ending
    if parts.getLast? == some "" then parts.dropLast else parts
  let paths := if given.operands.isEmpty then ["-"] else given.operands
  if given.has 's' then
    for path in paths do
      match ← contentOf path with
      | .ok s => print (joined signs 0 (linesOf s) ++ ending)
      | .error e => note (fileName path ++ ": " ++ e.text)
  else
    let mut files := []
    let mut input := none
    for path in paths do
      match path, input with
      | "-", some lines => files := lines :: files
      | path, _ =>
        match ← contentOf path with
        | .ok s =>
          files := linesOf s :: files
          if path == "-" then input := some (linesOf s)
        | .error e =>
          if e == .missing || e == .notDirectory then die (fileName path ++ ": " ++ e.text)
          note (fileName path ++ ": " ++ e.text)
          files := [] :: files
    let bound := (files.map List.length).foldl (· + ·) 1
    let out := beside signs bound (paths.map (· == "-")) files.reverse []
    print (String.join (out.map (· ++ ending)))
  closeInput paths

/-! ## Lines of limited width -/

/-- The column behind a character. -/
def columnAfter (inBytes : Bool) (column : Nat) (c : Char) : Nat :=
  if inBytes then column + 1
  else if c == '\x08' then column - 1
  else if c == '\r' then 0
  else if c == '\t' then column + 8 - column % 8
  else column + 1

/-- A line that is being broken: what is done, and from its end what stands in the last part. -/
structure Broken where
  done : String := ""
  last : List Char := []
  column : Nat := 0

/-- Put a character behind the last part of a line, or into a new part.  The first argument bounds
the number of parts that are begun for it. -/
def Broken.push (inBytes atBlanks : Bool) (width : Nat) (c : Char) : Nat → Broken → Broken
  | 0, b => { b with last := c :: b.last }
  | n + 1, b =>
    let column := columnAfter inBytes b.column c
    if column ≤ width then { b with last := c :: b.last, column }
    else
      let isBlank (c : Char) := c == ' ' || c == '\t'
      let tail := b.last.takeWhile (!isBlank ·)
      if atBlanks && tail.length < b.last.length then
        let front := String.ofList (b.last.drop tail.length).reverse
        let column := tail.reverse.foldl (columnAfter inBytes) 0
        Broken.push inBytes atBlanks width c n
          { done := b.done ++ front ++ "\n", last := tail, column }
      else if b.last.isEmpty then { b with last := [c], column }
      else
        Broken.push inBytes atBlanks width c n
          { done := b.done ++ String.ofList b.last.reverse ++ "\n" }

/-- A line that is broken into parts. -/
def broken (inBytes atBlanks : Bool) (width : Nat) (line : String) : String :=
  let b := line.foldl (fun b c => Broken.push inBytes atBlanks width c 4 b) ({} : Broken)
  b.done ++ String.ofList b.last.reverse

/-- The digits, each of which is an option of its own. -/
def digitOptions : String :=
  "0123456789"

/-- The values of an option, which can be written as numbers by themselves, too. -/
def numbersOf (given : Given) (option : Char) : List String :=
  given.options.filterMap fun (c, value) =>
    if c == option then some value
    else if c.isDigit then some (String.singleton c ++ value)
    else none

/-- Print files line by line, each line changed. -/
def changeLines (paths : List String) (change : String → String) : Run Unit := do
  for (_, text) in ← contents paths do
    print (String.join ((keptLines text).map fun line =>
      if line.endsWith "\n" then change (line.dropEnd 1).toString ++ "\n" else change line))
  closeInput paths

/-- `fold`. -/
def fold : Tool := fun _ words => do
  let given ← Options.read
    { flags := "bs", values := "w", maybes := digitOptions
      long := [("bytes", 'b'), ("spaces", 's'), ("width", 'w')] } words.tail
  let width ← natOf "invalid number of columns" 1 (2 ^ 64 - 10)
    ((numbersOf given 'w').getLast?.getD "80")
  changeLines given.operands (broken (given.has 'b') (given.has 's') width)

/-! ## Tabs -/

/-- Where tabs lead to: some columns, and the rule for those behind the last one. -/
structure TabStops where
  columns : List Nat := []
  /-- Tabs behind the last column lead to multiples of this. -/
  every : Nat := 0
  /-- Whether the multiples count from the last column. -/
  fromLast : Bool := false

/-- The column that a tab leads to; none where it is only one blank. -/
def TabStops.next? (t : TabStops) (column : Nat) : Option Nat :=
  match t.columns.find? (column < ·) with
  | some stop => some stop
  | none =>
    if t.every == 0 then none
    else
      let origin := if t.fromLast then t.columns.getLast?.getD 0 else 0
      some (column + t.every - (column - origin) % t.every)

/-- The tab stops that a list writes. -/
def tabStopsOf (list : String) : Run TabStops := do
  let isComma (c : Char) := c == ',' || c == ' ' || c == '\t'
  let parts := (String.ofList (list.toList.map fun c => if isComma c then ',' else c)).splitOn ","
  let mut listed := []
  let mut last := 0
  let mut fromLast := false
  for part in parts do
    if !part.isEmpty then
      let sign := part.toList.headD ' '
      let marked := sign == '/' || sign == '+'
      let body := if marked then (part.drop 1).toString else part
      match Raw.nat? body with
      | none =>
        let wrong := body.toList.dropWhile Char.isDigit
        die ("tab size contains invalid character(s): " ++ quote (String.ofList wrong))
      | some n =>
        if marked then
          last := n
          fromLast := sign == '+'
        else listed := listed ++ [n]
  match listed, last with
  | [], 0 => return { every := 8 }
  | [n], 0 =>
    if n == 0 then die "tab size cannot be 0"
    return { every := n }
  | columns, every =>
    if columns.contains 0 then die "tab size cannot be 0"
    unless (columns.zip columns.tail).all fun (a, b) => a < b do
      die "tab sizes must be ascending"
    return { columns, every, fromLast }

/-- A line in which tabs have become blanks. -/
def expanded (t : TabStops) (onlyFirst : Bool) (line : String) : String :=
  (line.foldl
    (fun (out, column, active) c =>
      if !active then (out.push c, column, false)
      else if c == '\t' then
        let stop := (t.next? column).getD (column + 1)
        (out ++ String.ofList (List.replicate (stop - column) ' '), stop, true)
      else
        let column := if c == '\x08' then column - 1 else column + 1
        (out.push c, column, !onlyFirst || c == ' '))
    ("", 0, true)).1

/-- A line that is being given tabs: what is done, its column, and the blanks that are held back. -/
structure Tabbed where
  out : String := ""
  column : Nat := 0
  pending : List Char := []
  /-- Whether a single blank has led to a tab stop. -/
  single : Bool := false
  blankBefore : Bool := false
  active : Bool := true

/-- Print the blanks that were held back. -/
def Tabbed.flush (b : Tabbed) : Tabbed :=
  match b.pending with
  | [] => b
  | c :: rest =>
    let first := if !rest.isEmpty && b.single then '\t' else c
    { b with out := b.out ++ String.ofList (first :: rest), pending := [], single := false }

/-- Put a character behind a line that is being given tabs. -/
def Tabbed.push (t : TabStops) (everywhere : Bool) (b : Tabbed) (c : Char) : Tabbed :=
  let tab (b : Tabbed) (stop : Nat) : Tabbed :=
    let b := { b with column := stop, pending := if b.single then ['\t'] else [] }.flush
    { b with out := b.out.push '\t', blankBefore := true }
  if !b.active then { b with out := b.out.push c }
  else if c == ' ' || c == '\t' then
    match t.next? b.column with
    | none =>
      let b := b.flush
      { b with out := b.out.push c, active := false }
    | some stop =>
      if c == '\t' then tab b stop
      else if b.blankBefore && b.column + 1 == stop then tab b stop
      else
        { b with
          column := b.column + 1, pending := b.pending ++ [c], blankBefore := true
          single := b.single || b.column + 1 == stop }
  else
    let b := b.flush
    { b with
      out := b.out.push c, blankBefore := false, active := everywhere
      column := if c == '\x08' then b.column - 1 else b.column + 1 }

/-- A line in which blanks have become tabs. -/
def unexpanded (t : TabStops) (everywhere : Bool) (line : String) : String :=
  (line.foldl (Tabbed.push t everywhere) ({} : Tabbed)).flush.out

/-- `expand`. -/
def expand : Tool := fun _ words => do
  let given ← Options.read
    { flags := "i", values := "t", maybes := digitOptions
      long := [("initial", 'i'), ("tabs", 't')] } words.tail
  let t ← tabStopsOf (",".intercalate (numbersOf given 't'))
  changeLines given.operands (expanded t (given.has 'i'))

/-- `unexpand`. -/
def unexpand : Tool := fun _ words => do
  let given ← Options.read
    { flags := "af", values := "t", maybes := digitOptions
      long := [("all", 'a'), ("first-only", 'f'), ("tabs", 't')] } words.tail
  let numbers := numbersOf given 't'
  let t ← tabStopsOf (",".intercalate numbers)
  let everywhere := (given.has 'a' || !numbers.isEmpty) && !given.has 'f'
  changeLines given.operands (unexpanded t everywhere)

end MonitorKeys.Shell.Tool.Columns
