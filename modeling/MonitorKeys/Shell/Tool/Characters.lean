import MonitorKeys.CharSet
import MonitorKeys.Shell.Tool

/-!
# Replacing characters

`tr` replaces characters by others, takes characters out, and shrinks runs of a character to one.
Which characters these are is written in a notation of its own: a list with ranges, classes and
repetitions, which stands for the sequence of characters that `Part.chars` puts together.
-/

namespace MonitorKeys.Shell.Tool.Characters

/-! ## Lists of characters -/

/-- A character of a list, and whether a backslash stood in front of it. -/
abbrev Sign := Char × Bool

/-- A part of a list. -/
inductive Part where
  | char (c : Char)
  | range (first last : Char)
  | named (name : String) (set : CharSet)
  | alike (c : Char)
  /-- A character several times, or as often as there is room. -/
  | again (c : Char) (count : Option Nat)
  deriving Repr

/-- All bytes. -/
def bytes : List Char :=
  (List.range 256).map Char.ofNat

/-- The characters that a part stands for, where `room` is how many fill up the list. -/
def Part.chars (room : Nat) : Part → List Char
  | char c | alike c => [c]
  | range a b => (List.range (b.toNat + 1 - a.toNat)).map fun n => Char.ofNat (a.toNat + n)
  | named _ set => bytes.filter set.contains
  | again c count => List.replicate (count.getD room) c

/-- The characters that parts stand for. -/
def charsOf (room : Nat) (parts : List Part) : List Char :=
  parts.flatMap (Part.chars room)

/-- Whether a part is a class of letters of one case. -/
def Part.isCase : Part → Bool
  | named name _ => name == "upper" || name == "lower"
  | _ => false

/-- The characters that letters stand for behind a backslash. -/
def controls : List (Char × Char) :=
  [('a', '\x07'), ('b', '\x08'), ('f', '\x0c'), ('n', '\n'), ('r', '\r'), ('t', '\t'),
   ('v', '\x0b')]

/-- The signs of a list, and the warnings about it.  The first argument bounds their number. -/
def signs : Nat → List Char → List Sign × List String
  | 0, _ | _, [] => ([], [])
  | n + 1, '\\' :: cs =>
    match cs with
    | [] =>
      ([('\\', false)], ["warning: an unescaped backslash at end of string is not portable"])
    | c :: rest =>
      let isOctal (c : Char) := '0' ≤ c && c ≤ '7'
      let ds := (cs.take 3).takeWhile isOctal
      if ds.isEmpty then
        let (more, warnings) := signs n rest
        (((controls.lookup c).getD c, true) :: more, warnings)
      else
        let value := (Raw.digits? 8 ds).getD 0
        if value < 256 then
          let (more, warnings) := signs n (cs.drop ds.length)
          ((Char.ofNat value, true) :: more, warnings)
        else
          let front := String.ofList (ds.take 2)
          let (more, warnings) := signs n (cs.drop 2)
          ((Char.ofNat (value / 8), true) :: more,
            ("warning: the ambiguous octal escape \\" ++ String.ofList ds ++ " is being\n\tinterpreted"
              ++ " as the 2-byte sequence \\0" ++ front ++ ", " ++ String.ofList (ds.drop 2))
              :: warnings)
  | n + 1, c :: cs =>
    let (more, warnings) := signs n cs
    ((c, false) :: more, warnings)

/-- The signs before a sign and a closing bracket, and those after both. -/
def upTo? (sign : Char) : List Sign → Option (List Char × List Sign)
  | [] | [_] => none
  | (c, false) :: (']', false) :: rest =>
    if c == sign then some ([], rest)
    else (upTo? sign ((']', false) :: rest)).map fun (inner, rest) => (c :: inner, rest)
  | (c, _) :: rest => (upTo? sign rest).map fun (inner, rest) => (c :: inner, rest)

/-- The repetition whose opening bracket stood before some signs, where there is one, and the signs
after it. -/
def repetition? : List Sign → Except String (Option (Part × List Sign))
  | (c, _) :: ('*', false) :: rest =>
    let inner := rest.takeWhile fun s => s != (']', false) && !s.2
    match rest.drop inner.length with
    | (']', false) :: after =>
      let ds := inner.map (·.1)
      if ds.isEmpty then .ok (some (.again c none, after))
      else
        match Raw.digits? (if ds.head? == some '0' then 8 else 10) ds with
        | some 0 => .ok (some (.again c none, after))
        | some n => .ok (some (.again c (some n), after))
        | none =>
          .error ("invalid repeat count " ++ quote (String.ofList ds) ++ " in [c*n] construct")
    | _ => .ok none
  | _ => .ok none

/-- A class or an equivalence, whose opening bracket and sign stood before some signs. -/
def bracket? (sign : Char) (rest : List Sign) : Except String (Option (Part × List Sign)) :=
  match upTo? sign rest with
  | none => .ok none
  | some (inner, after) =>
    let name := String.ofList inner
    if inner.isEmpty then
      .error (if sign == ':' then "missing character class name '[::]'"
        else "missing equivalence class character '[==]'")
    else if sign == ':' then
      match CharSet.ofName? name with
      | some set => .ok (some (.named name set, after))
      | none => .error ("invalid character class " ++ quote name)
    else
      match inner with
      | [c] => .ok (some (.alike c, after))
      | _ => .error (name ++ ": equivalence class operand must be a single character")

/-- The parts of a list.  The first argument bounds their number. -/
def parts : Nat → List Sign → Except String (List Part)
  | 0, _ => .ok []
  | n + 1, all => do
    match all with
    | [] => return []
    | s :: rest =>
      if all.length < 3 then return all.map fun s => .char s.1
      let found ←
        if s != ('[', false) then pure none
        else do
          let class? ←
            match rest with
            | (c, false) :: inner => if c == ':' || c == '=' then bracket? c inner else pure none
            | _ => pure none
          match class? with
          | some found => pure (some found)
          | none => repetition? rest
      match found, rest with
      | some (part, after), _ => return part :: (← parts n after)
      | none, ('-', false) :: last :: after =>
        if last.1 < s.1 then
          throw ("range-endpoints of '" ++ String.singleton s.1 ++ "-" ++ String.singleton last.1
            ++ "' are in reverse collating sequence order")
        return .range s.1 last.1 :: (← parts n after)
      | none, rest => return .char s.1 :: (← parts n rest)

/-- The parts of a list that an argument writes. -/
def partsOf (s : String) : Run (List Part) := do
  let (all, warnings) := signs (s.length + 1) s.toList
  for w in warnings do complain w
  match parts (all.length + 1) all with
  | .ok ps => return ps
  | .error e => die e

/-! ## What is done -/

/-- The number of the first character of each part, with the part. -/
def placed (room : Nat) : Nat → List Part → List (Nat × Part)
  | _, [] => []
  | n, p :: ps => (n, p) :: placed room (n + (p.chars room).length) ps

/-- Say what is wrong with the second list, if anything is. -/
def check (complement truncate : Bool) (first second : List Part) (domain : List Char) :
    Run (List Char) := do
  let isFiller : Part → Bool
    | .again _ none => true
    | _ => false
  if 1 < (second.filter isFiller).length then
    die "only one [c*] repeat construct may appear in string2"
  for p in second do
    match p with
    | .alike _ => die "[=c=] expressions may not appear in string2 when translating"
    | .named _ _ =>
      unless p.isCase do
        die "when translating, the only character classes that may appear in\nstring2 are 'upper' and 'lower'"
    | _ => pure ()
  let room := domain.length - (charsOf 0 second).length
  let range := charsOf room second
  unless complement do
    let cases := ((placed 0 0 first).filter (·.2.isCase)).map (·.1)
    for (n, p) in placed room 0 second do
      if p.isCase && n ≤ domain.length && !cases.contains n then
        die "misaligned [:upper:] and/or [:lower:] construct"
  let mut image := range
  if range.length < domain.length && !truncate then
    if range.isEmpty then die "when not truncating set1, string2 must be non-empty"
    if second.getLast?.any Part.isCase then
      die "when translating with string1 longer than string2,\nthe latter string must not end with a character class"
    let last := range.getLast?.getD ' '
    image := range ++ List.replicate (domain.length - range.length) last
  let hasClass := first.any fun p => match p with
    | .named _ _ => true
    | _ => false
  if complement && hasClass && !(image.length == domain.length && image.all (· == image.headD ' '))
  then
    die "when translating with complemented character classes,\nstring2 must map all characters in the domain to one"
  return image

/-- A text in which runs of a character of a set have been shrunk to one. -/
def squeezed (set : List Char) (s : String) : String :=
  let isIn := (bytes.map set.contains).toArray
  (s.foldl
    (fun (out, last) c =>
      if last == some c && isIn.getD c.toNat false then (out, last) else (out.push c, some c))
    ("", none)).1

/-- A text without the characters of a set. -/
def deleted (set : List Char) (s : String) : String :=
  let isIn := (bytes.map set.contains).toArray
  s.foldl (fun out c => if isIn.getD c.toNat false then out else out.push c) ""

/-- A text in which the characters of one list have become those of the other. -/
def replaced (domain image : List Char) (s : String) : String :=
  let table := (domain.zip image).foldl (fun t (a, b) => t.setIfInBounds a.toNat b) bytes.toArray
  s.map fun c => table.getD c.toNat c

/-- The options of `tr`. -/
def options : Options :=
  { flags := "cCdst", anywhere := false
    long := [("complement", 'c'), ("delete", 'd'), ("squeeze-repeats", 's'),
      ("truncate-set1", 't')] }

/-- Say that the number of arguments is wrong, if it is. -/
def checkCount (delete squeeze : Bool) (arguments operands : List String) : Run Unit := do
  let least := if delete == squeeze then 2 else 1
  let most := if delete && !squeeze then 1 else 2
  if operands.length < least then
    match operands.getLast? with
    | none => misuse "missing operand"
    | some _ =>
      complain ("missing operand after " ++ quote (arguments.getLast?.getD ""))
      Run.warn ((if squeeze then
          "Two strings must be given when both deleting and squeezing repeats."
        else "Two strings must be given when translating.") ++ "\n")
      Run.warn (← tryHelp)
      leave 1
  match operands[most]? with
  | some extra =>
    complain ("extra operand " ++ quote extra)
    if operands.length == 2 then
      Run.warn "Only one string may be given when deleting without squeezing repeats.\n"
    Run.warn (← tryHelp)
    leave 1
  | none => return

/-- `tr`. -/
def tr : Tool := fun _ words => do
  let given ← options.read words.tail
  let delete := given.has 'd'
  let squeeze := given.has 's'
  let complement := given.has 'c' || given.has 'C'
  checkCount delete squeeze words.tail given.operands
  let first ← partsOf (given.operands.headD "")
  let second ← given.operands.tail.head?.mapM partsOf
  if first.any fun p => match p with
      | .again _ none => true
      | _ => false then
    die "the [c*] repeat construct may not appear in string1"
  let listed := charsOf 0 first
  let domain := if complement then bytes.filter fun c => !listed.contains c else listed
  let change : String → String ←
    match delete, second with
    | true, none => pure (deleted domain)
    | true, some set => pure fun s => squeezed (charsOf 0 set) (deleted domain s)
    | false, none => pure (squeezed domain)
    | false, some second => do
      let image ← check complement (given.has 't') first second domain
      let shrink := if squeeze then squeezed (charsOf 0 second) else id
      pure fun s => shrink (replaced domain image s)
  match ← Run.read 0 with
  | .ok s => print (change s)
  | .error e => die ("read error: " ++ e.text)

end MonitorKeys.Shell.Tool.Characters
