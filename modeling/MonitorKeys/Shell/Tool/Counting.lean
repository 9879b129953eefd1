import MonitorKeys.Shell.Format
import MonitorKeys.Shell.Pattern
import MonitorKeys.Shell.Tool.Copying

/-!
# Counting

`wc` counts what is in files, `nl` numbers their lines, and `seq` prints the numbers of a sequence.
-/

namespace MonitorKeys.Shell.Tool.Counting

/-! ## Lines, words and bytes -/

/-- How many lines, words and bytes a text has, and how wide its widest line is. -/
structure Counts where
  lines : Nat := 0
  words : Nat := 0
  bytes : Nat := 0
  width : Nat := 0
  /-- The column of the line that is being counted, and whether it is within a word. -/
  column : Nat := 0
  inWord : Bool := false

/-- Count one character. -/
def Counts.push (n : Counts) (c : Char) : Counts :=
  let n := { n with bytes := n.bytes + 1 }
  let wordEnd (n : Counts) (column : Nat) : Counts :=
    { n with column, inWord := false, width := max n.width column }
  if c == '\n' then { wordEnd n 0 with lines := n.lines + 1 }
  else if c == '\r' || c == '\x0c' then wordEnd n 0
  else if c == '\t' then wordEnd n (n.column + 8 - n.column % 8)
  else if c == ' ' then wordEnd n (n.column + 1)
  else if c == '\x0b' then wordEnd n n.column
  else if c.toNat < 32 || 127 ≤ c.toNat then n
  else
    { n with
      column := n.column + 1, width := max n.width (n.column + 1), inWord := true
      words := if n.inWord then n.words else n.words + 1 }

/-- The counts of two texts together. -/
def Counts.add (a b : Counts) : Counts :=
  { lines := a.lines + b.lines, words := a.words + b.words, bytes := a.bytes + b.bytes
    width := max a.width b.width }

/-- The size of what a path leads to; `none` where it is no file, and no answer where there is
nothing. -/
def sizeOf (path : String) : Run (Option (Option Nat)) := do
  let ofNode (n : Nat) : Run (Option Nat) := do
    match (← Run.system).tree.node? n with
    | some (.file content _) => return some content.size
    | _ => return none
  if path == "-" then
    match ← Run.openFile? 0 with
    | some (_, { target := .node n _, .. }) => return some (← ofNode n)
    | some _ => return some none
    | none => return none
  else
    match ← Run.resolve path with
    | .ok { number := some n, .. } => return some (← ofNode n)
    | _ => return none

/-- How wide counts are printed. -/
def countWidth (several : Bool) (paths : List String) : Run Nat := do
  if paths.length < 2 && !several then return 1
  let sizes ← paths.mapM sizeOf
  let known := sizes.filterMap id
  let total := (known.map (·.getD 0)).foldl (· + ·) 0
  return max (if known.any Option.isNone then 7 else 1) (toString total).length

/-- `wc`. -/
def wc : Tool := fun _ words => do
  let given ← Options.read
    { flags := "clLmw", values := "TF"
      long := [("bytes", 'c'), ("chars", 'm'), ("lines", 'l'), ("words", 'w'),
        ("max-line-length", 'L'), ("total", 'T'), ("files0-from", 'F')] } words.tail
  let total := (given.last? 'T').getD "auto"
  unless ["auto", "always", "only", "never"].contains total do
    wrongWord "total" total ["'auto'", "'always'", "'only'", "'never'"]
  let wanted := "lwmcL".toList.filter given.has
  let wanted := if wanted.isEmpty then ['l', 'w', 'c'] else wanted
  let paths := if given.operands.isEmpty then ["-"] else given.operands
  let width ← if total == "only" then pure 1 else countWidth (1 < wanted.length) paths
  let line (n : Counts) (name : String) : String :=
    let shown := wanted.map fun c => Raw.padLeft width ' ' (toString
      (if c == 'l' then n.lines else if c == 'w' then n.words else if c == 'L' then n.width
        else n.bytes))
    " ".intercalate shown ++ (if name.isEmpty then "" else " " ++ name) ++ "\n"
  let mut sum : Counts := {}
  for path in paths do
    let n : Option Counts ←
      match ← contentOf path with
      | .ok s => pure (some (s.foldl Counts.push {}))
      | .error e =>
        note ((if path == "-" then "'standard input'" else fileName path) ++ ": " ++ e.text)
        pure (if e == .isDirectory || path == "-" then some {} else none)
    match n with
    | none => pure ()
    | some n =>
      sum := sum.add n
      unless total == "only" do printBriefly (line n (if given.operands.isEmpty then "" else path))
  if total == "only" then printBriefly (line sum "")
  else if total == "always" || (total == "auto" && 1 < paths.length) then printBriefly (line sum "total")
  closeInput given.operands

/-! ## Numbers of lines -/

/-- Which lines of a section get numbers. -/
inductive Numbered where
  | every
  | filled
  | none_
  | matching (r : Regex)

/-- How lines are numbered. -/
structure Numbering where
  header : Numbered
  body : Numbered
  footer : Numbered
  /-- How many empty lines count as one. -/
  empties : Nat
  start : Int
  step : Int
  width : Nat
  separator : String
  /-- Where the number stands, and whether zeros fill it up. -/
  format : String
  keepsOn : Bool
  sign : String

/-- How far a text has been numbered. -/
structure NumberedSoFar where
  out : List String := []
  number : Int
  rule : Numbered
  empties : Nat := 1

/-- A number as it stands in front of a line. -/
def Numbering.front (n : Numbering) (number : Int) : String :=
  let digits := toString number.natAbs
  let text := (if number < 0 then "-" else "") ++ digits
  (if n.format == "ln" then Raw.padRight n.width ' ' text
    else if n.format == "rz" then
      (if number < 0 then "-" ++ Raw.padLeft (n.width - 1) '0' digits
        else Raw.padLeft n.width '0' digits)
    else Raw.padLeft n.width ' ' text) ++ n.separator

/-- Number one line, which stands without its end. -/
def Numbering.push (n : Numbering) (s : NumberedSoFar) (line : String) : NumberedSoFar :=
  let section? : Option Numbered :=
    if n.sign.isEmpty then none
    else if line == n.sign ++ n.sign ++ n.sign then some n.header
    else if line == n.sign ++ n.sign then some n.body
    else if line == n.sign then some n.footer
    else none
  match section? with
  | some rule =>
    { s with out := "\n" :: s.out, rule, number := if n.keepsOn then s.number else n.start }
  | none =>
    let plain : NumberedSoFar :=
      { s with
        out := (String.ofList (List.replicate (n.width + n.separator.length) ' ') ++ line ++ "\n")
          :: s.out }
    let numbered : NumberedSoFar :=
      { s with out := (n.front s.number ++ line ++ "\n") :: s.out, number := s.number + n.step }
    match s.rule with
    | .none_ => plain
    | .filled => if line.isEmpty then plain else numbered
    | .matching r => if r.isIn line.toList then numbered else plain
    | .every =>
      if n.empties < 2 then numbered
      else if !line.isEmpty || s.empties == n.empties then { numbered with empties := 1 }
      else { plain with empties := s.empties + 1 }

/-- The rule that an option gives for a section. -/
def numberedOf (name : String) (text : Option String) (usual : Numbered) : Run Numbered := do
  match text with
  | none => return usual
  | some text =>
    match text.toList with
    | ['a'] => return .every
    | ['t'] => return .filled
    | ['n'] => return .none_
    | 'p' :: cs =>
      match Pattern.read { emptyRanges := true } (String.ofList cs) with
      | .ok found => return .matching found.regex
      | .error e => die e.text
    | _ => misuse ("invalid " ++ name ++ " numbering style: " ++ quote text)

/-- The whole number that an option gives. -/
def intOf (what : String) (usual : Int) (text : Option String) : Run Int := do
  match text with
  | none => return usual
  | some s =>
    match Raw.int? s with
    | some n =>
      if 2 ^ 63 ≤ n.natAbs then die (what ++ ": " ++ quote s ++ ": " ++ rangeError n.natAbs)
      return n
    | none => die (what ++ ": " ++ quote s)

/-- `nl`. -/
def nl : Tool := fun _ words => do
  let given ← Options.read
    { flags := "p", values := "bdfhilnsvw"
      long := [("body-numbering", 'b'), ("section-delimiter", 'd'), ("footer-numbering", 'f'),
        ("header-numbering", 'h'), ("line-increment", 'i'), ("join-blank-lines", 'l'),
        ("number-format", 'n'), ("no-renumber", 'p'), ("number-separator", 's'),
        ("starting-line-number", 'v'), ("number-width", 'w')] } words.tail
  let header ← numberedOf "header" (given.last? 'h') .none_
  let body ← numberedOf "body" (given.last? 'b') .filled
  let footer ← numberedOf "footer" (given.last? 'f') .none_
  let start ← intOf "invalid starting line number" 1 (given.last? 'v')
  let step ← intOf "invalid line number increment" 1 (given.last? 'i')
  let empties ← natOf "invalid line number of blank lines" 1 (2 ^ 63) ((given.last? 'l').getD "1")
  let width ← natOf "invalid line number field width" 1 (2 ^ 31 - 1) ((given.last? 'w').getD "6")
  let format := (given.last? 'n').getD "rn"
  unless ["ln", "rn", "rz"].contains format do
    misuse ("invalid line numbering format: " ++ quote format)
  let delimiter := (given.last? 'd').getD "\\:"
  let sign := if delimiter.length == 1 then delimiter ++ ":" else delimiter
  let n : Numbering :=
    { header, body, footer, empties, start, step, width, format, sign
      separator := (given.last? 's').getD "\t", keepsOn := given.has 'p' }
  let mut soFar : NumberedSoFar := { number := start, rule := body }
  for (_, text) in ← contents given.operands do
    soFar := (Raw.lines text).foldl n.push soFar
    print (String.join soFar.out.reverse)
    soFar := { soFar with out := [] }
  closeInput given.operands

/-! ## Sequences -/

/-- A number of a sequence: so many units, of which a number of places makes one of. -/
structure Term where
  units : Int
  places : Nat
  /-- How wide the number was written. -/
  width : Nat
  infinite : Bool := false

/-- The number that a text writes; `none` for what is no number. -/
def term? (s : String) : Option (Except Unit Term) :=
  let body := s.toList.dropWhile fun c => c == ' ' || ('\t' ≤ c && c ≤ '\r')
  let (sign, body) : Int × List Char :=
    match body with
    | '-' :: r => (-1, r)
    | '+' :: r => (1, r)
    | r => (1, r)
  match body with
  | '0' :: 'x' :: ds =>
    (Raw.digits? 16 ds).map fun n =>
      .ok { units := sign * n, places := 0, width := (toString n).length }
  | _ =>
    match Numeral.read? body with
    | none => none
    | some .nan => some (.error ())
    | some (.infinity _) => some (.ok { units := sign, places := 0, width := 3, infinite := true })
    | some (.decimal d) =>
      let width := (if sign < 0 then 1 else 0) + body.length
      if 4932 < d.exponent then some (.ok { units := sign, places := 0, width, infinite := true })
      else if d.exponent < 0 then
        some (.ok { units := sign * d.digits, places := d.exponent.natAbs, width })
      else
        let units := d.digits * 10 ^ d.exponent.toNat
        some (.ok
          { units := sign * units, places := 0
            width := if d.exponent == 0 then width else (toString units).length })

/-- The number that an argument of a sequence writes. -/
def termOf (s : String) : Run Term := do
  match term? s with
  | some (.ok t) => return t
  | some (.error _) => misuse ("invalid 'not-a-number' argument: " ++ quote s)
  | none => misuse ("invalid floating point argument: " ++ quote s)

/-- The units of a number where there are more places. -/
def Term.unitsAt (t : Term) (places : Nat) : Int :=
  t.units * 10 ^ (places - t.places)

/-- A number with its places behind a point, filled up with zeros to a width. -/
def pointedText (places width : Nat) (n : Int) : String :=
  let digits := Raw.padLeft (places + 1) '0' (toString n.natAbs)
  let text :=
    if places == 0 then digits
    else
      (digits.dropEnd places).toString ++ "."
        ++ (digits.drop (digits.length - places)).toString
  if n < 0 then "-" ++ Raw.padLeft (width - 1) '0' text else Raw.padLeft width '0' text

/-- The format of `-f`: the text before the directive, the directive, and the text behind it. -/
def formatOf (format : String) : Run (String × (Binary64 → String) × String) := do
  let wrong {α : Type} (text : String) : Run α :=
    die ("format " ++ quote format ++ " " ++ text)
  let rec plain : Nat → List Char → String → Option (String × List Char)
    | 0, _, _ => none
    | _, [], _ => none
    | n + 1, '%' :: '%' :: cs, out => plain n cs (out.push '%')
    | _, '%' :: cs, out => some (out, cs)
    | n + 1, c :: cs, out => plain n cs (out.push c)
  match plain (format.length + 1) format.toList "" with
  | none => wrong "has no % directive"
  | some (front, rest) =>
    let (o, rest) := Directive.outline (rest.filter (· != '\''))
    let rest := if rest.head? == some 'L' then rest.tail else rest
    match rest with
    | [] => wrong "ends in %"
    | letter :: rest =>
      unless "aAeEfFgG".toList.contains letter do
        wrong ("has unknown %" ++ String.singleton letter ++ " directive")
      let back := (String.ofList rest).replace "%%" "%"
      if (plain (rest.length + 1) rest "").isSome then wrong "has too many % directives"
      let d := Directive.ofOutline o letter []
      return (front, d.real, back)

/-- Print the numbers of a sequence in blocks, each text by `show_`, until it ends or nobody reads
it.  The first argument bounds the number of blocks. -/
def printTerms (separator : String) (show_ : Int → String) (step : Int) (last : Option Int) :
    Nat → Bool → Int → Run Unit
  | 0, _, _ => throw .expired
  | n + 1, first, start => do
    let inside (k : Int) : Bool :=
      match last with
      | none => true
      | some stop => if step < 0 then stop ≤ k else k ≤ stop
    let block := ((List.range 2000).map fun (i : Nat) => start + i * step).takeWhile inside
    if block.isEmpty then
      unless first do print "\n"
    else
      let text := separator.intercalate (block.map show_)
      print (if first then text else separator ++ text)
      if block.length < 2000 then print "\n"
      else printTerms separator show_ step last n false (start + 2000 * step)

/-- Whether an argument is a negative number, which does not count as an option. -/
def isNegative (a : String) : Bool :=
  match a.toList with
  | '-' :: c :: _ => c == '.' || c.isDigit
  | _ => false

/-- `seq`. -/
def seq : Tool := fun _ words => do
  let front := words.tail.takeWhile fun a => !isNegative a
  let given ← Options.read
    { flags := "w", values := "fs", anywhere := false
      long := [("equal-width", 'w'), ("format", 'f'), ("separator", 's')] } front
  let operands := given.operands ++ words.tail.drop front.length
  match operands with
  | [] => misuse "missing operand"
  | _ :: _ :: _ :: extra :: _ => misuse ("extra operand " ++ quote extra)
  | _ => pure ()
  let format ← (given.last? 'f').mapM formatOf
  let one : Term := { units := 1, places := 0, width := 1 }
  let terms ← operands.mapM termOf
  let (first, step, last) : Term × Term × Term :=
    match terms with
    | [a, b, c] => (a, b, c)
    | [a, c] => (a, one, c)
    | [c] => (one, one, c)
    | _ => (one, one, one)
  if step.units == 0 then
    misuse ("invalid Zero increment value: " ++ quote (operands.getD 1 ""))
  if format.isSome && given.has 'w' then
    misuse "format string may not be specified when printing equal width strings"
  let places := max first.places step.places
  let common := max places last.places
  let scale : Int := 10 ^ (common - places)
  let widen (t : Term) : Nat :=
    t.width - t.places + places
      + (if t.places == 0 && places != 0 then 1 else 0)
      - (if t.places != 0 && places == 0 then 1 else 0)
  let width := if given.has 'w' then max (widen first) (if last.infinite then 0 else widen last)
    else 0
  let show_ (n : Int) : String :=
    match format with
    | none => pointedText places width (n / scale)
    | some (front, text, back) =>
      let x := Binary64.ofCode (n < 0) (Binary64.decimalCode n.natAbs (-(common : Int)))
      front ++ text x ++ back
  let final := if last.infinite then none else some (last.unitsAt common)
  if last.infinite && (last.units < 0) != (step.units < 0) then leave 0
  printTerms ((given.last? 's').getD "\n") show_ (step.unitsAt common) final 100000 true
    (first.unitsAt common)

end MonitorKeys.Shell.Tool.Counting
