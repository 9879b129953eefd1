import MonitorKeys.Shell.Tool.Starting

/-!
# Arguments from the input

`xargs` makes arguments from its input and starts a program with them, with as many at a time as
options allow.
-/

namespace MonitorKeys.Shell.Tool.Xargs

/-! ## The arguments in a text -/

/-- An argument, and whether it is the last one of its line. -/
structure Item where
  text : String
  endsLine : Bool
  deriving Repr

/-- What was made of a text: the arguments, and the quote that has no partner. -/
structure Found where
  items : List Item
  unmatched : Option Char := none

/-- The arguments in a text where blanks stand between them, quotes join them, and a backslash takes
the meaning from the sign behind it.  In whole lines blanks stand between nothing.  The first
argument bounds the number of steps. -/
def quotedItems (wholeLines : Bool) :
    Nat → List Char → Option (List Char) → List Item → Found
  | 0, _, _, out => { items := out.reverse }
  | n + 1, cs, word, out =>
    let finish (endsLine : Bool) : List Item :=
      match word with
      | some w => ⟨String.ofList w.reverse, endsLine⟩ :: out
      | none => out
    let add (more : List Char) : Option (List Char) := some (more.reverse ++ word.getD [])
    match cs with
    | [] => { items := (finish true).reverse }
    | '\n' :: rest =>
      match word, out with
      | none, last :: before =>
        -- A line that ends in blanks goes on in the next one.
        quotedItems wholeLines n rest none (last :: before)
      | _, _ => quotedItems wholeLines n rest none (finish true)
    | '\\' :: rest => quotedItems wholeLines n (rest.drop 1) (add (rest.take 1)) out
    | c :: rest =>
      if c == '\'' || c == '"' then
        let inner := rest.takeWhile fun d => d != c && d != '\n'
        match rest.drop inner.length with
        | d :: after =>
          if d == c then quotedItems wholeLines n after (add inner) out
          else { items := out.reverse, unmatched := some c }
        | [] => { items := out.reverse, unmatched := some c }
      else if (c == ' ' || c == '\t') && (!wholeLines || word.isNone) then
        quotedItems wholeLines n rest none (finish false)
      else quotedItems wholeLines n rest (add [c]) out

/-- The arguments in a text where a character stands behind each. -/
def dividedItems (sign : Char) (s : String) : Found :=
  let parts := s.splitOn (String.singleton sign)
  let parts := if parts.getLast? == some "" then parts.dropLast else parts
  { items := parts.map (⟨·, true⟩) }

/-- The character that an option for the sign between arguments writes. -/
def delimiterOf (text : String) : Run Char := do
  match text.toList with
  | [c] => return c
  | '\\' :: cs =>
    let (c, _) := Printing.escape .system cs
    return c
  | _ =>
    die ("Invalid input delimiter specification " ++ text ++ ": the delimiter must be either a "
      ++ "single character or an escape sequence starting with \\.")

/-! ## What is started -/

/-- How arguments are put together. -/
structure Plan where
  replace : Option String := none
  perCommand : Option Nat := none
  lines : Option Nat := none

/-- The number that an option gives. -/
def numberOf (option : Char) (least : Int) (text : String) : Run Nat := do
  let name := " for -" ++ String.singleton option ++ " option"
  match Raw.int? text with
  | none => misuse ("invalid number \"" ++ text ++ "\"" ++ name)
  | some n =>
    if n < least then
      misuse ("value " ++ toString n ++ name ++ " should be >= " ++ toString least)
    return n.toNat

/-- Say that an option takes the place of another one. -/
def replaced (option other : String) : Run Unit :=
  complain ("warning: options --" ++ option ++ " and " ++ other
    ++ " are mutually exclusive, ignoring previous --" ++ option ++ " value")

/-- The plan that options describe; the last one of those that exclude each other counts. -/
def planOf (given : Given) : Run Plan := do
  let mut plan : Plan := {}
  for (c, value) in given.options do
    if c == 'n' then
      let count ← numberOf 'n' 1 value
      if plan.lines.isSome then replaced "max-lines" "--max-args/-n"
      if plan.replace.isSome && count == 1 then plan := { plan with lines := none }
      else
        if plan.replace.isSome then replaced "replace" "--max-args/-n"
        plan := { perCommand := some count }
    if c == 'I' || c == 'i' then
      if plan.perCommand.isSome then replaced "max-args" "--replace/-I/-i"
      if plan.lines.isSome then replaced "max-lines" "--replace/-I/-i"
      plan := { replace := some (if c == 'i' && value.isEmpty then "\x7b\x7d" else value) }
    if c == 'L' || c == 'l' then
      let count ← if c == 'l' && value.isEmpty then pure 1 else numberOf 'L' 1 value
      let name := if c == 'l' then "--max-lines/-l" else "-L"
      if plan.perCommand.isSome then replaced "max-args" name
      if plan.replace.isSome then replaced "replace" name
      plan := { lines := some count }
  return plan

/-- Arguments in groups of so many.  The first argument bounds the number of groups. -/
def groupsOf (size : Nat) : Nat → List Item → List (List Item)
  | 0, _ => []
  | _, [] => []
  | n + 1, items => items.take size :: groupsOf size n (items.drop size)

/-- Arguments in groups of the lines that they come from, so many lines in a group. -/
def groupsOfLines (size : Nat) (items : List Item) : List (List Item) :=
  let (groups, group, _) := items.foldl
    (fun (groups, group, lines) item =>
      let group := item :: group
      let lines := if item.endsLine then lines + 1 else lines
      if lines == size then (group.reverse :: groups, [], 0) else (groups, group, lines))
    (([] : List (List Item)), ([] : List Item), 0)
  (if group.isEmpty then groups else group.reverse :: groups).reverse

/-- How long words are as arguments. -/
def lengthOf (words : List String) : Nat :=
  (words.map fun w => w.length + 1).foldl (· + ·) 0

/-- Groups of arguments that are not longer than a limit together with some words. -/
def groupsWithin (limit : Nat) (words : List String) (groups : List (List Item)) :
    Option (List (List Item)) :=
  let room := limit - lengthOf words
  let split (group : List Item) : List (List Item) :=
    let (done, last, _) := group.foldl
      (fun (done, last, used) item =>
        let length := item.text.length + 1
        if used + length ≤ room || last.isEmpty then (done, item :: last, used + length)
        else (last.reverse :: done, [item], length))
      (([] : List (List Item)), ([] : List Item), 0)
    (last.reverse :: done).reverse
  let all := groups.flatMap split
  if all.all fun g => lengthOf (words ++ g.map (·.text)) ≤ limit then some all else none

/-- Why a program cannot be started, if so. -/
def obstacle? (name : String) : Run (Option FileError) := do
  match ← Launch.find name with
  | .error e => return some e
  | .ok path =>
    match ← Run.resolve path with
    | .error e => return some e
    | .ok place =>
      match place.number.bind (← Run.system).tree.node? with
      | none => return some .missing
      | some (.program _) => return none
      | some (.file _ mode) => return if mode &&& 0o111 == 0 then some .denied else none
      | some _ => return some .denied

/-- Start a program and wait for it; the answer says whether it failed. -/
def start (interp : Interpreter) (trace : Bool) (command : List String) : Run Bool := do
  if trace then Run.warn (" ".intercalate (command.map fileName) ++ "\n")
  let name := command.headD ""
  if let some e ← obstacle? name then
    die (name ++ ": " ++ e.text) (if e == .missing then 127 else 126)
  match ← Launch.run interp command fun _ => Run.setStatus 127 with
  | .code 0 => return false
  | .code 255 => die (name ++ ": exited with status 255; aborting") 124
  | .code _ => return true
  | .signal n => die (name ++ ": terminated by signal " ++ toString n) 125

/-- The options of `xargs`. -/
def options : Options :=
  { flags := "0prtxo", values := "adEILnPs", maybes := "eil", anywhere := false
    long := [("null", '0'), ("arg-file", 'a'), ("delimiter", 'd'), ("eof", 'e'), ("replace", 'i'),
      ("max-lines", 'l'), ("max-args", 'n'), ("max-procs", 'P'), ("interactive", 'p'),
      ("no-run-if-empty", 'r'), ("max-chars", 's'), ("verbose", 't'), ("exit", 'x'),
      ("open-tty", 'o')] }

/-- `xargs`. -/
def xargs : Tool := fun interp words => do
  let given ← options.read words.tail
  let plan ← planOf given
  if let some text := given.last? 'P' then
    let _ ← numberOf 'P' 0 text
  let limit ← (given.last? 's').mapM (numberOf 's' 1)
  let sign ← (given.last? 'd').mapM delimiterOf
  let text ←
    match given.last? 'a' with
    | some path =>
      match ← contentOf path with
      | .ok s => pure s
      | .error e => die ("Cannot open input file " ++ quote path ++ ": " ++ e.text)
    | none => pure ((← Run.read 0).toOption.getD "")
  let found :=
    match if given.lastOf? "0d" == some '0' then some '\x00' else sign with
    | some sign => dividedItems sign text
    | none => quotedItems plan.replace.isSome (text.length + 2) text.toList none []
  let last := (given.options.filter fun o => o.1 == 'E' || o.1 == 'e').getLast?.map (·.2)
  let items := match last with
    | some mark =>
      if mark.isEmpty then found.items else found.items.takeWhile (·.text != mark)
    | none => found.items
  let command := if given.operands.isEmpty then ["echo"] else given.operands
  let groups :=
    match plan.replace, plan.lines, plan.perCommand with
    | some _, _, _ => items.map ([·])
    | none, some n, _ => groupsOfLines n items
    | none, none, some n => groupsOf n (items.length + 1) items
    | none, none, none => if items.isEmpty then [] else [items]
  let tooLong {α : Type} : Run α := die "argument line too long"
  let groups ←
    match groupsWithin (limit.getD 131072) command groups with
    | some gs => pure gs
    | none => tooLong
  let words (group : List Item) : List String :=
    match plan.replace, group with
    | some mark, [item] =>
      if mark.isEmpty then command
      else command.headD "" :: command.tail.map fun w => w.replace mark item.text
    | _, group => command ++ group.map (·.text)
  let complete := plan.replace.isSome || plan.lines.isSome || plan.perCommand.isSome
  let groups := if found.unmatched.isSome && !complete then [] else groups
  let input ← if given.has 'a' then pure ((← Run.openFile? 0).map (·.1)) else do
    match ← Run.openPath "/dev/null" .read with
    | .ok file => pure (some file)
    | .error _ => pure none
  let mut failed := false
  Run.withDescriptor 0 input do
    if groups.isEmpty && !given.has 'r' && plan.replace.isNone && found.unmatched.isNone then
      if ← start interp (given.has 't') command then Run.setStatus 123
    for group in groups do
      if ← start interp (given.has 't') (words group) then Run.setStatus 123
  failed := (← Run.status) != 0
  match found.unmatched with
  | some c =>
    die ("unmatched " ++ (if c == '\'' then "single" else "double")
      ++ " quote; by default quotes are special to xargs unless you use the -0 option")
  | none => pure ()
  if !given.has 'a' && (← Run.openFile? 0).isNone then
    die ("error closing file: " ++ FileError.text .badDescriptor)
  if failed then leave 123

end MonitorKeys.Shell.Tool.Xargs
