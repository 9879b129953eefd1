import MonitorKeys.Shell.Format
import MonitorKeys.Shell.Tool.Columns

/-!
# Sorting lines

`sort` puts lines into an order that keys describe, and `uniq` finds lines that follow equal ones.

A key is a part of a line with a rule for comparing it.  `Key.compare` compares two lines by one key,
and `Order.compare` by all of them.
-/

namespace MonitorKeys.Shell.Tool.Sorting

/-! ## Ways to compare -/

/-- Whether a character is a blank between fields. -/
def isBlank (c : Char) : Bool :=
  c == ' ' || c == '\t' || c == '\n'

/-- A decimal number: so many units, of which a number of places makes one of. -/
abbrev Amount := Int × Nat

/-- The number at the start of a text, which is zero where there is none, and the text after it. -/
def amountOf (cs : List Char) : Amount × List Char :=
  let cs := cs.dropWhile isBlank
  let (sign, cs) : Int × List Char := if cs.head? == some '-' then (-1, cs.tail) else (1, cs)
  let whole := cs.takeWhile Char.isDigit
  let rest := cs.drop whole.length
  let fraction := if rest.head? == some '.' then rest.tail.takeWhile Char.isDigit else []
  let rest := if rest.head? == some '.' then rest.tail.drop fraction.length else rest
  ((sign * Numeral.digitsValue (whole ++ fraction), fraction.length), rest)

/-- Compare decimal numbers. -/
def compareAmounts (a b : Amount) : Ordering :=
  compare (a.1 * 10 ^ b.2) (b.1 * 10 ^ a.2)

/-- The rank of a number with a unit: the unit counts first. -/
def sizeRank (cs : List Char) : Int :=
  let (amount, rest) := amountOf cs
  let rank : Int :=
    match rest.head? with
    | none => 0
    | some c => if c == 'k' then 1 else ("KMGTPEZYRQ".toList.idxOf? c).elim 0 fun i => i + 1
  if amount.1 < 0 then -rank - 1 else if amount.1 == 0 then 0 else rank + 1

/-- The rank of a floating point number; what is no number comes first. -/
def realRank (cs : List Char) : Int :=
  match realPrefix? cs with
  | none => -(2 ^ 65)
  | some (.nan, _) => -(2 ^ 64)
  | some (.infinite true, _) => -(2 ^ 63)
  | some (.infinite false, _) => 2 ^ 63
  | some (.finite negative code, _) => if negative then -(code.val : Int) else code.val

/-- The number of the month whose name begins a text; zero for none. -/
def monthOf (cs : List Char) : Nat :=
  let name := String.ofList (((cs.dropWhile isBlank).take 3).map Char.toUpper)
  (["JAN", "FEB", "MAR", "APR", "MAY", "JUN", "JUL", "AUG", "SEP", "OCT", "NOV", "DEC"].idxOf?
    name).elim 0 (· + 1)

/-- The rank of a character of a version that is no digit, or of the end. -/
def versionRank : List Char → Int
  | [] => -1
  | c :: _ =>
    if c.isDigit then 0 else if c.isAlpha then c.toNat else if c == '~' then -2
    else c.toNat + 256

/-- Compare versions: digits as numbers, and other characters by their ranks.  The first argument
bounds the number of steps. -/
def compareVersions : Nat → List Char → List Char → Ordering
  | 0, _, _ => .eq
  | n + 1, a, b =>
    let other (cs : List Char) : Bool := cs.head?.any fun c => !c.isDigit
    if a.isEmpty && b.isEmpty then .eq
    else if other a || other b then
      match compare (versionRank a) (versionRank b) with
      | .eq => compareVersions n a.tail b.tail
      | o => o
    else
      let da := (a.takeWhile Char.isDigit)
      let db := (b.takeWhile Char.isDigit)
      match compare (Numeral.digitsValue da) (Numeral.digitsValue db) with
      | .eq => compareVersions n (a.drop da.length) (b.drop db.length)
      | o => o

/-- How many characters stand before the endings of a file name.  The first argument bounds the
number of steps. -/
def stemLength (cs : Array Char) : Nat → Nat → Nat → Nat
  | 0, _, stem => stem
  | n + 1, i, stem =>
    if cs.size ≤ i then stem
    else
      let i := i + 1
      let isStart (i : Nat) : Bool :=
        cs[i]? == some '.' && (cs[i + 1]?).any fun c => c.isAlpha || c == '~'
      let rec skip : Nat → Nat → Nat
        | 0, i => i
        | n + 1, i =>
          if isStart i then
            let length := ((cs.toList.drop (i + 2)).takeWhile fun c =>
              c.isAlphanum || c == '~').length
            skip n (i + 2 + length)
          else i
      stemLength cs n (skip n i) i

/-- Compare file names with versions in them. -/
def compareNames (a b : List Char) : Ordering :=
  let rank (cs : List Char) : Nat :=
    match cs with
    | [] => 0
    | ['.'] => 1
    | ['.', '.'] => 2
    | '.' :: _ => 3
    | _ => 4
  match compare (rank a) (rank b) with
  | .eq =>
    let bound := a.length + b.length + 2
    let stem (cs : List Char) := cs.take (stemLength cs.toArray (cs.length + 1) 0 0)
    match compareVersions bound (stem a) (stem b) with
    | .eq => compareVersions bound a b
    | o => o
  | o => o

/-- Compare texts by their characters. -/
def compareChars : List Char → List Char → Ordering
  | [], [] => .eq
  | [], _ => .lt
  | _, [] => .gt
  | a :: as, b :: bs => if a < b then .lt else if b < a then .gt else compareChars as bs

/-! ## Keys -/

/-- The rules of a key, by their letters. -/
structure Rules where
  letters : List Char := []
  /-- Whether blanks in front of the first or the last field are passed over. -/
  skipStart : Bool := false
  skipEnd : Bool := false
  deriving Repr

/-- Whether a rule holds. -/
def Rules.has (r : Rules) (c : Char) : Bool :=
  r.letters.contains c

/-- Whether no rule holds. -/
def Rules.isEmpty (r : Rules) : Bool :=
  r.letters.isEmpty && !r.skipStart && !r.skipEnd

/-- A key: the part of a line from one place to another, counted in fields and characters. -/
structure Key where
  field : Nat := 0
  char : Nat := 0
  /-- The last field; none for the end of the line. -/
  lastField : Option Nat := none
  /-- The last character of it; zero for all. -/
  lastChar : Nat := 0
  rules : Rules := {}
  deriving Repr

/-- A line behind so many fields. -/
def behindFields (tab : Option Char) : Nat → List Char → List Char
  | 0, cs => cs
  | _, [] => []
  | n + 1, cs =>
    match tab with
    | some t => behindFields tab n ((cs.dropWhile (· != t)).drop 1)
    | none => behindFields tab n ((cs.dropWhile isBlank).dropWhile (!isBlank ·))

/-- How many characters of a line stand before the end of a key. -/
def endOf (tab : Option Char) (k : Key) (line : List Char) : Nat :=
  match k.lastField with
  | none => line.length
  | some field =>
    if k.lastChar == 0 then
      let front := behindFields tab field line
      match tab with
      | some t => line.length - front.length + (front.takeWhile (· != t)).length
      | none => line.length - (behindFields tab 1 front).length
    else
      let front := behindFields tab field line
      let front := if k.rules.skipEnd then front.dropWhile isBlank else front
      line.length - front.length + min front.length k.lastChar

/-- The part of a line that a key is about. -/
def Key.part (k : Key) (tab : Option Char) (line : List Char) : List Char :=
  let front := behindFields tab k.field line
  let front := if k.rules.skipStart then front.dropWhile isBlank else front
  let front := front.drop k.char
  front.take (endOf tab k line - (line.length - front.length))

/-- Compare two parts of lines by the rules of a key. -/
def Rules.compare (r : Rules) (a b : List Char) : Ordering :=
  let order :=
    if r.has 'n' then compareAmounts (amountOf a).1 (amountOf b).1
    else if r.has 'g' then Ord.compare (realRank a) (realRank b)
    else if r.has 'h' then
      (Ord.compare (sizeRank a) (sizeRank b)).then (compareAmounts (amountOf a).1 (amountOf b).1)
    else if r.has 'M' then Ord.compare (monthOf a) (monthOf b)
    else if r.has 'V' then compareNames a b
    else
      let counts (c : Char) : Bool :=
        if r.has 'd' then c.isAlphanum || c == ' ' || c == '\t'
        else if r.has 'i' then 32 ≤ c.toNat && c.toNat < 127
        else true
      let shown (cs : List Char) : List Char :=
        let cs := if r.has 'd' || r.has 'i' then cs.filter counts else cs
        if r.has 'f' then cs.map Char.toUpper else cs
      compareChars (shown a) (shown b)
  if r.has 'r' then order.swap else order

/-- An order of lines. -/
structure Order where
  keys : List Key
  tab : Option Char
  reverse : Bool
  stable : Bool

/-- A line with the parts of it that are compared. -/
structure Row where
  line : String
  parts : List (List Char)

/-- A line with its parts. -/
def Order.row (o : Order) (line : String) : Row :=
  let cs := line.toList
  { line, parts := o.keys.map fun k => k.part o.tab cs }

/-- Compare two lines by the keys only. -/
def Order.compareKeys (o : Order) (a b : Row) : Ordering :=
  (o.keys.zip (a.parts.zip b.parts)).foldl
    (fun order (k, x, y) => if order == .eq then k.rules.compare x y else order) .eq

/-- Compare two lines as a whole. -/
def Order.compareLines (o : Order) (a b : Row) : Ordering :=
  let order := compareChars a.line.toList b.line.toList
  if o.reverse then order.swap else order

/-- Compare two lines. -/
def Order.compare (o : Order) (a b : Row) : Ordering :=
  match if o.keys.isEmpty then .eq else o.compareKeys a b with
  | .eq => if o.stable && !o.keys.isEmpty then .eq else o.compareLines a b
  | order => order

/-! ## Options of `sort` -/

/-- The letters of rules. -/
def ruleLetters : List Char :=
  "bdfgiMhnRrV".toList

/-- Rules with one more, which can concern the start or the end of a key. -/
def Rules.add (r : Rules) (c : Char) (start stop : Bool) : Rules :=
  if c == 'b' then { r with skipStart := r.skipStart || start, skipEnd := r.skipEnd || stop }
  else if c == 'i' && r.has 'd' then r
  else if c == 'd' then { r with letters := 'd' :: r.letters.filter (· != 'i') }
  else if r.has c then r
  else { r with letters := c :: r.letters }

/-- A number of a key's description, and the text after it. -/
def countOf (what : String) (s : List Char) : Run (Nat × List Char) := do
  let ds := s.takeWhile Char.isDigit
  match Raw.digits? 10 ds with
  | some n => return (n, s.drop ds.length)
  | none =>
    die ("invalid number " ++ what ++ ": invalid count at start of " ++ quote (String.ofList s)) 2

/-- The key that a text describes. -/
def keyOf (text : String) : Run Key := do
  let wrong {α : Type} (reason : String) : Run α :=
    die (reason ++ ": invalid field specification " ++ quote text) 2
  let place (what : String) (s : List Char) : Run (Nat × Option Nat × List Char) := do
    let (field, s) ← countOf what s
    if field == 0 then wrong "field number is zero"
    match s with
    | '.' :: s =>
      let (char, s) ← countOf "after '.'" s
      return (field, some char, s)
    | s => return (field, none, s)
  let (field, char, s) ← place "at field start" text.toList
  if char == some 0 then wrong "character offset is zero"
  let startRules := s.takeWhile ruleLetters.contains
  let rules := startRules.foldl (fun (r : Rules) c => r.add c true false) {}
  let key : Key := { field := field - 1, char := char.getD 1 - 1, rules }
  match s.drop startRules.length with
  | [] => return key
  | ',' :: s =>
    let (field, char, s) ← place "after ','" s
    let endRules := s.takeWhile ruleLetters.contains
    unless endRules.length == s.length do wrong "stray character in field spec"
    let rules := endRules.foldl (fun (r : Rules) c => r.add c false true) rules
    return { key with lastField := some (field - 1), lastChar := char.getD 0, rules }
  | _ => wrong "stray character in field spec"

/-- Say that rules exclude each other, if they do. -/
def checkRules (r : Rules) : Run Unit := do
  let kinds := ("gnhM".toList.filter r.has).length
    + (if "VRdi".toList.any r.has then 1 else 0)
  if 1 < kinds then
    die ("options '-" ++ String.ofList ("dfghiMnRV".toList.filter r.has) ++ "' are incompatible") 2

/-- The letters that words for ways to sort stand for. -/
def sortWords : List (String × Char) :=
  [("general-numeric", 'g'), ("human-numeric", 'h'), ("month", 'M'), ("numeric", 'n'),
   ("random", 'R'), ("version", 'V')]

/-- The options of `sort`. -/
def options : Options :=
  { flags := "bcCdfghiMmnRrsuVzD", values := "koStTKPB", maybes := "?"
    long := [("ignore-leading-blanks", 'b'), ("check", '?'), ("dictionary-order", 'd'),
      ("ignore-case", 'f'), ("general-numeric-sort", 'g'), ("ignore-nonprinting", 'i'),
      ("month-sort", 'M'), ("merge", 'm'), ("numeric-sort", 'n'), ("human-numeric-sort", 'h'),
      ("random-sort", 'R'), ("version-sort", 'V'), ("reverse", 'r'), ("stable", 's'),
      ("unique", 'u'), ("zero-terminated", 'z'), ("key", 'k'), ("output", 'o'),
      ("buffer-size", 'S'), ("field-separator", 't'), ("temporary-directory", 'T'),
      ("sort", 'K'), ("parallel", 'P'), ("batch-size", 'B'), ("debug", 'D')]
    misuse := 2 }

/-- The separator of fields that options give. -/
def tabOf (given : Given) : Run (Option Char) := do
  let mut tab := none
  for value in given.all 't' do
    let c ←
      match value.toList with
      | [] => die "empty tab" 2
      | [c] => pure c
      | ['\\', '0'] => pure '\x00'
      | _ => die ("multi-character tab " ++ quote value) 2
    if tab.any (· != c) then die "incompatible tabs" 2
    tab := some c
  return tab

/-- The order that options describe. -/
def orderOf (given : Given) : Run Order := do
  let mut keys := []
  let mut rules : Rules := {}
  for (c, value) in given.options do
    if c == 'k' then keys := keys ++ [← keyOf value]
    if ruleLetters.contains c then rules := rules.add c true true
    if c == 'K' then
      match sortWords.lookup value with
      | some letter => rules := rules.add letter true true
      | none => wrongWord "sort" value (sortWords.map fun w => quote w.1)
  let tab ← tabOf given
  let inherited := keys.map fun k => if k.rules.isEmpty then { k with rules } else k
  let plain := rules.letters.all (· == 'r') && !rules.skipStart
  let all := if keys.isEmpty && !plain then [{ rules : Key }] else inherited
  for k in all do checkRules k.rules
  return { keys := all, tab, reverse := rules.has 'r', stable := given.has 's' || given.has 'u' }

/-- Rows without those that are equal to the one before. -/
def unequal (same : Row → Row → Bool) (rows : List Row) : List Row :=
  (rows.foldl
    (fun kept r =>
      match kept with
      | last :: _ => if same last r then kept else r :: kept
      | [] => [r])
    []).reverse

/-- The rows of several lists that are each in order, in one list.  The first argument bounds their
number. -/
def merged (le : Row → Row → Bool) : Nat → List Row → List Row → List Row → List Row
  | 0, _, _, out => out.reverse
  | _, [], bs, out => out.reverse ++ bs
  | _, as, [], out => out.reverse ++ as
  | n + 1, a :: as, b :: bs, out =>
    if le a b then merged le n as (b :: bs) (a :: out) else merged le n (a :: as) bs (b :: out)

/-- The number and the text of the first row that does not follow the one before. -/
def firstDisorder? (wrong : Row → Row → Bool) : Nat → List Row → Option (Nat × String)
  | n, a :: b :: rest =>
    if wrong a b then some (n + 1, b.line) else firstDisorder? wrong (n + 1) (b :: rest)
  | _, _ => none

/-- Say that the output of `sort` fails. -/
def failOutput {α : Type} (e : FileError) : Run α := do
  complain ("fflush failed: 'standard output': " ++ e.text)
  die (if e == .badDescriptor then "write error: " ++ e.text else "write error") 2

/-- `sort`. -/
def sort : Tool := fun _ words => do
  let given ← options.read words.tail
  let order ← orderOf given
  for value in given.all '?' do
    unless ["", "quiet", "silent", "diagnose-first"].contains value do
      wrongWord "check" value ["'quiet', 'silent'", "'diagnose-first'"]
  let checks := given.has 'c' || given.has 'C' || given.has '?'
  let quiet := given.has 'C' || (given.last? '?').any fun v => v == "quiet" || v == "silent"
  if checks && given.has 'o' then die "options '-co' are incompatible" 2
  match checks, given.operands with
  | true, _ :: extra :: _ =>
    die ("extra operand " ++ quote extra ++ " not allowed with -c") 2
  | _, _ => pure ()
  let paths := if given.operands.isEmpty then ["-"] else given.operands
  for path in paths do
    if path == "-" then
      if (← Run.openFile? 0).isNone then
        die ("stat failed: -: " ++ FileError.text .badDescriptor) 2
    else
      match ← Run.openPath path .read with
      | .ok _ => pure ()
      | .error e =>
        die ((if checks then "open failed: " else "cannot read: ") ++ path ++ ": " ++ e.text) 2
  let ending := if given.has 'z' then "\x00" else "\n"
  let mut files := []
  for path in paths do
    match ← contentOf path with
    | .ok s =>
      let parts := s.splitOn ending
      let lines := if parts.getLast? == some "" then parts.dropLast else parts
      files := lines.map order.row :: files
    | .error e => die ("read failed: " ++ path ++ ": " ++ e.text) 2
  let compareKeys (a b : Row) : Ordering :=
    if order.keys.isEmpty then order.compareLines a b else order.compareKeys a b
  let rows := files.reverse
  if checks then
    let wrong (a b : Row) : Bool :=
      if given.has 'u' then compareKeys a b != .lt else order.compare a b == .gt
    match firstDisorder? wrong 1 rows.flatten with
    | none => return
    | some (n, line) =>
      unless quiet do
        complain (paths.headD "-" ++ ":" ++ toString n ++ ": disorder: " ++ line)
      leave 1
  let le (a b : Row) : Bool := order.compare a b != .gt
  let sorted :=
    if given.has 'm' then
      rows.foldl (fun soFar rows => merged le (soFar.length + rows.length) soFar rows []) []
    else rows.flatten.mergeSort le
  let kept := if given.has 'u' then unequal (fun a b => compareKeys a b == .eq) sorted else sorted
  let out := String.join (kept.map fun r => r.line ++ ending)
  match given.last? 'o' with
  | none =>
    match ← Run.write 1 out with
    | none => return
    | some e => failOutput e
  | some path =>
    match ← save path out with
    | none => return
    | some e =>
      die ((if e == .full then "write failed: " else "open failed: ") ++ path ++ ": " ++ e.text) 2

/-! ## Lines that follow equal ones -/

/-- How lines are compared: what is passed over at their start, how much counts, and whether case
does. -/
structure Comparison where
  fields : Nat
  chars : Nat
  width : Option Nat
  anyCase : Bool

/-- The part of a line that counts. -/
def Comparison.part (c : Comparison) (line : String) : List Char :=
  let rest := (behindFields none c.fields line.toList).drop c.chars
  let rest := c.width.elim rest rest.take
  if c.anyCase then rest.map Char.toLower else rest

/-- Groups of lines that follow each other and are equal, each with its part that counts. -/
def groups (c : Comparison) (lines : List String) : List (List String) :=
  let found := lines.foldl
    (fun soFar line =>
      let part := c.part line
      match soFar with
      | (p, group) :: rest =>
        if p == part then (p, line :: group) :: rest else (part, [line]) :: soFar
      | [] => [(part, [line])])
    ([] : List (List Char × List String))
  (found.map fun g => g.2.reverse).reverse

/-- The number that an option of `uniq` gives. -/
def uniqNumber (what text : String) : Run Nat := do
  match Raw.nat? text with
  | some n => return n
  | none => die (text ++ ": invalid number of " ++ what)

/-- Where empty lines stand between groups of lines. -/
def separated (way : String) (groups : List String) : String :=
  match way with
  | "separate" => "\n".intercalate groups
  | "prepend" => String.join (groups.map ("\n" ++ ·))
  | "append" => String.join (groups.map (· ++ "\n"))
  | "both" => if groups.isEmpty then "" else "\n" ++ String.join (groups.map (· ++ "\n"))
  | _ => String.join groups

/-- `uniq`. -/
def uniq : Tool := fun _ words => do
  let given ← Options.read
    { flags := "cdDiuz", values := "fsw", maybes := "AG" ++ Columns.digitOptions
      long := [("count", 'c'), ("repeated", 'd'), ("all-repeated", 'A'), ("skip-fields", 'f'),
        ("group", 'G'), ("ignore-case", 'i'), ("skip-chars", 's'), ("unique", 'u'),
        ("zero-terminated", 'z'), ("check-chars", 'w')] } words.tail
  let isChars (a : String) : Bool :=
    a.startsWith "+" && (Raw.nat? (a.drop 1).toString).isSome
  let operands := given.operands.filter (!isChars ·)
  match operands[2]? with
  | some extra => misuse ("extra operand " ++ quote extra)
  | none => pure ()
  let numberOf (c : Char) (what : String) : Run (Option Nat) :=
    (given.last? c).mapM (uniqNumber what)
  let fields ← numberOf 'f' "fields to skip"
  let bare := (given.options.filter fun o => o.1.isDigit).getLast?.bind fun o =>
    Raw.nat? (String.singleton o.1 ++ o.2)
  let oldChars := (given.operands.find? isChars).bind fun a => Raw.nat? (a.drop 1).toString
  let chars ← numberOf 's' "bytes to skip"
  let width ← numberOf 'w' "bytes to compare"
  for value in given.all 'G' do
    unless ["", "prepend", "append", "separate", "both"].contains value do
      wrongWord "group" value ["'prepend'", "'append'", "'separate'", "'both'"]
  for value in given.all 'A' do
    unless ["", "none", "prepend", "separate"].contains value do
      wrongWord "all-repeated" value ["'none'", "'prepend'", "'separate'"]
  if given.has 'G' && "cdDuA".toList.any given.has then
    misuse "--group is mutually exclusive with -c/-d/-D/-u"
  let all := given.has 'D' || given.has 'A'
  if all && given.has 'c' then
    misuse "printing all duplicated lines and repeat counts is meaningless"
  let c : Comparison :=
    { fields := (fields <|> bare).getD 0, chars := (chars <|> oldChars).getD 0, width
      anyCase := given.has 'i' }
  let path := operands.headD "-"
  let text ←
    match ← contentOf path with
    | .ok s => pure s
    | .error e =>
      if e == .isDirectory || e == .badDescriptor then
        die ("error reading " ++ quote path ++ ": " ++ e.text)
      die (fileName path ++ ": " ++ e.text)
  let ending := if given.has 'z' then "\x00" else "\n"
  let parts := text.splitOn ending
  let found := groups c (if parts.getLast? == some "" then parts.dropLast else parts)
  let joined (g : List String) : String := String.join (g.map (· ++ ending))
  let isKept (g : List String) : Bool :=
    if 1 < g.length then !given.has 'u' else !(given.has 'd' || all)
  let out :=
    if given.has 'G' then
      let way := (given.last? 'G').getD ""
      separated (if way == "" then "separate" else way) (found.map joined)
    else if all then
      separated ((given.last? 'A').getD "") ((found.filter isKept).map joined)
    else
      String.join ((found.filter isKept).map fun g =>
        (if given.has 'c' then Raw.padLeft 7 ' ' (toString g.length) ++ " " else "")
          ++ g.headD "" ++ ending)
  match operands[1]? with
  | none => print out
  | some "-" => print out
  | some target =>
    match ← save target out with
    | none => return
    | some e => die (fileName target ++ ": " ++ e.text)

end MonitorKeys.Shell.Tool.Sorting
