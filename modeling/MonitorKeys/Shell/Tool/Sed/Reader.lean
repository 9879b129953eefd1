import MonitorKeys.Power
import MonitorKeys.Shell.Pattern
import MonitorKeys.Shell.Tool.Sed.Script

/-!
# Reading scripts of the stream editor

A script is read character by character, so that a message can name the place where something is
wrong.  It can be given in several parts; blocks and the text of a command may go on from one part to
the next.
-/

namespace MonitorKeys.Shell.Tool.Sed

/-- What is wrong, and how many characters had been read by then. -/
structure Mistake where
  place : Nat
  text : String

/-- Commands to be inserted in text that is still to come. -/
structure Reading where
  chars : Array Char
  place : Nat := 0
  commands : Array Command := #[]
  /-- The places of the blocks that are open, the innermost one first. -/
  blocks : List Nat := []
  labels : List (String × Nat) := []
  /-- The jumps whose targets are still to be found. -/
  jumps : List (Nat × String) := []
  /-- The command whose text goes on in the next part, and its text so far. -/
  pending : Option (Nat × List Char) := none
  silent : Bool := false
  /-- Whether this is the first part. -/
  isFirst : Bool := true
  extended : Bool := false

/-- A reader of a part of a script. -/
abbrev Read := EStateM Mistake Reading

namespace Read

/-- Stop with a mistake. -/
def fail {α : Type} (text : String) : Read α := do
  throw ⟨(← get).place, text⟩

/-- The next character, which is passed. -/
def next : Read (Option Char) :=
  modifyGet fun r =>
    match r.chars[r.place]? with
    | some c => (some c, { r with place := r.place + 1 })
    | none => (none, r)

/-- Put a character back. -/
def back (c : Option Char) : Read Unit :=
  if c.isSome then modify fun r => { r with place := r.place - 1 } else return

/-- Whether a character is a blank. -/
def isBlank (c : Char) : Bool :=
  c == ' ' || c == '\t'

/-- How many characters are left, and one more. -/
def bound : Read Nat := do
  let r ← get
  return r.chars.size - r.place + 1

/-- The next character that satisfies a condition, which is passed with those before it. -/
def nextWith (p : Char → Bool) : Nat → Read (Option Char)
  | 0 => return none
  | n + 1 => do
    match ← next with
    | some c => if p c then return some c else nextWith p n
    | none => return none

/-- The next character that is no blank, which is passed. -/
def nextNonblank : Read (Option Char) := do
  nextWith (!isBlank ·) (← bound)

/-- The characters that satisfy a condition and come next, which are passed. -/
def takeWhile (p : Char → Bool) : Read (List Char) :=
  modifyGet fun r =>
    let found := (r.chars.toList.drop r.place).takeWhile p
    (found, { r with place := r.place + found.length })

/-- A number whose first digit has been passed. -/
def number (first : Char) : Read Nat := do
  let more ← takeWhile Char.isDigit
  return (Raw.digits? 10 (first :: more)).getD 0

/-- Pass the end of a command. -/
def endOfCommand : Read Unit := do
  match ← nextNonblank with
  | none | some '\n' | some ';' => return
  | some c =>
    if c == '\x7d' || c == '#' then back (some c) else fail "extra characters after command"

/-! ## Texts between delimiters -/

/-- The rest of a text up to a delimiter; in an expression, a delimiter between brackets does not
count.  `none` where there is no delimiter.  The arguments are a bound, whether brackets are open
and how many characters they hold so far, and the text so far from its end. -/
def delimited (delimiter : Char) (regex : Bool) :
    Nat → Option Nat → List Char → Read (Option String)
  | 0, _, _ => return none
  | n + 1, inside, taken => do
    let go (inside : Option Nat) (taken : List Char) := delimited delimiter regex n inside taken
    match ← next with
    | none => return none
    | some '\n' =>
      if regex then
        back (some '\n')
        return none
      go inside ('\n' :: taken)
    | some c =>
      match inside with
      | some count =>
        if c == ']' && 0 < count then go none (c :: taken)
        else if c == '[' then
          match ← next with
          | some d =>
            if d == ':' || d == '.' || d == '=' then
              let inner ← takeWhile (· != ']')
              let closing ← next
              go (some (count + 1)) (closing.toList ++ inner.reverse ++ d :: c :: taken)
            else
              back (some d)
              go (some (count + 1)) (c :: taken)
          | none => return none
        else if c == '\\' then
          match ← next with
          | some 'n' => go (some (count + 1)) ('\n' :: taken)
          | some d =>
            if d == ']' then
              back (some d)
              go (some (count + 1)) (c :: taken)
            else go (some (count + 1)) (d :: c :: taken)
          | none => return none
        else if c == '^' && count == 0 then go (some 0) (c :: taken)
        else go (some (count + 1)) (c :: taken)
      | none =>
        if c == delimiter then return some (String.ofList taken.reverse)
        else if c == '\\' then
          match ← next with
          | none => return none
          | some d =>
            if d == delimiter && !(!regex && d == '&') then go none (d :: taken)
            else if d == 'n' && regex then go none ('\n' :: taken)
            else if d == '\n' && regex then go none ('\n' :: taken)
            else go none (d :: '\\' :: taken)
        else if c == '[' && regex then go (some 0) (c :: taken)
        else go none (c :: taken)

/-- A text up to a delimiter. -/
def upTo (delimiter : Char) (regex : Bool) : Read (Option String) := do
  delimited delimiter regex (← bound) none []

/-- The expression that a text writes; an empty one stands for the one that was used last. -/
def regexOf (anyCase byLine : Bool) (s : String) : Read (Option (Regex × Nat)) := do
  if s.isEmpty then
    if anyCase || byLine then fail "cannot specify modifiers on empty regexp"
    return none
  match Pattern.read
      { extended := (← get).extended, escapes := true, anyCase, byLine } s with
  | .ok found => return some (found.regex, found.groups)
  | .error e => fail e.text

/-! ## Addresses -/

/-- The letters behind an expression in an address: whether case and lines count. -/
def addressFlags : Nat → Bool → Bool → Read (Bool × Bool)
  | 0, anyCase, byLine => return (anyCase, byLine)
  | n + 1, anyCase, byLine => do
    match ← nextNonblank with
    | some 'I' => addressFlags n true byLine
    | some 'M' => addressFlags n anyCase true
    | c =>
      back c
      return (anyCase, byLine)

/-- What can stand where an address is looked for. -/
inductive Found where
  | address (a : Address)
  | after (n : Nat)
  | multiple (n : Nat)
  | nothing

/-- An address that a character begins. -/
def address (c : Option Char) : Read Found := do
  match c with
  | some '$' => return .address .last
  | some '+' | some '~' =>
    let n ←
      match ← nextNonblank with
      | some d => if d.isDigit then number d else do
          back (some d)
          pure 0
      | none => pure 0
    return if c == some '+' then .after n else .multiple n
  | some c =>
    if c == '/' || c == '\\' then
      let delimiter ← if c == '\\' then next else pure (some c)
      let text ←
        match delimiter with
        | some d => upTo d true
        | none => pure none
      match text with
      | none => fail "unterminated address regex"
      | some s =>
        let (anyCase, byLine) ← addressFlags (← bound) false false
        return .address (.fits ((← regexOf anyCase byLine s).map (·.1)))
    else if c.isDigit then
      let first ← number c
      match ← nextNonblank with
      | some '~' =>
        match ← nextNonblank with
        | some d =>
          if d.isDigit then
            let step ← number d
            return .address (if step == 0 then .line first else .every first step)
          back (some d)
          return .address (.line first)
        | none => return .address (.line first)
      | d =>
        back d
        return .address (.line first)
    else return .nothing
  | none => return .nothing

/-! ## Texts of commands -/

/-- A text with its escapes replaced; a backslash is taken from other characters. -/
def plain : Nat → List Char → List Char
  | 0, cs => cs
  | _, [] => []
  | n + 1, '\\' :: cs =>
    match Pattern.escape? cs, cs with
    | some (c, rest), _ => c :: plain n rest
    | none, c :: rest => c :: plain n rest
    | none, [] => []
  | n + 1, c :: cs => c :: plain n cs

/-- The rest of a text that goes on behind lines that end with a backslash: what was read, and
whether it goes on in the next part of the script. -/
def textLines : Nat → List Char → Read (List Char × Bool)
  | 0, taken => return (taken.reverse, false)
  | n + 1, taken => do
    match ← next with
    | none => return (taken.reverse, false)
    | some '\n' => return (taken.reverse, false)
    | some '\\' =>
      match ← next with
      | none => return (taken.reverse, true)
      | some c => textLines n (c :: '\\' :: taken)
    | some c => textLines n (c :: taken)

/-- The text of a command, and whether it goes on in the next part. -/
def commandText : Read (List Char × Bool) := do
  match ← nextNonblank with
  | none => fail "expected \\ after \x60a', \x60c' or \x60i'"
  | some '\\' =>
    match ← next with
    | none => return ([], true)
    | some '\n' => textLines (← bound) []
    | some c =>
      if isBlank c then
        let blanks ← takeWhile isBlank
        match ← next with
        | some '\n' => textLines (← bound) []
        | d =>
          back d
          textLines (← bound) (blanks.reverse ++ [c])
      else textLines (← bound) [c]
  | some '\n' => fail "expected \\ after \x60a', \x60c' or \x60i'"
  | some c =>
    back (some c)
    textLines (← bound) []

/-- The text of a command as it is printed. -/
def shownText (cs : List Char) : String :=
  String.ofList (plain (cs.length + 1) cs) ++ "\n"

/-- A label, which blanks and semicolons end. -/
def label : Read String := do
  let first ← nextNonblank
  back first
  return String.ofList (← takeWhile fun c => !(c == ';' || c == '\n' || isBlank c))

/-- A label behind a jump. -/
def target : Read String := do
  let first ← nextNonblank
  back first
  let name ← takeWhile fun c => !(c == ';' || c == '\n' || c == '\x7d' || isBlank c)
  endOfCommand
  return String.ofList name

/-- A file name, up to the end of the line. -/
def fileName : Read String := do
  let first ← nextNonblank
  back first
  let name ← takeWhile (· != '\n')
  if name.isEmpty then fail "missing filename in r/R/w/W commands"
  let _ ← next
  return String.ofList name

/-! ## Substitutions -/

/-- The pieces of a replacement. -/
def pieces : Nat → List Char → List Char → List Piece
  | 0, taken, _ => [.text (String.ofList taken.reverse)]
  | _, taken, [] => [.text (String.ofList taken.reverse)]
  | n + 1, taken, c :: cs =>
    let piece (p : Piece) (rest : List Char) : List Piece :=
      .text (String.ofList taken.reverse) :: p :: pieces n [] rest
    if c == '&' then piece (.group 0) cs
    else if c == '\\' then
      match cs with
      | 'L' :: rest => piece (.change .lower) rest
      | 'U' :: rest => piece (.change .upper) rest
      | 'l' :: rest => piece (.change .lowerNext) rest
      | 'u' :: rest => piece (.change .upperNext) rest
      | 'E' :: rest => piece (.change .keep) rest
      | d :: rest =>
        if d.isDigit then piece (.group (d.toNat - '0'.toNat)) rest
        else
          match Pattern.escape? cs with
          | some (e, rest) => pieces n (e :: taken) rest
          | none => pieces n (d :: taken) rest
      | [] => pieces n ('\\' :: taken) []
    else pieces n (c :: taken) cs

/-- The letters behind a substitution, with whether case and lines count in its expression. -/
def substitutionFlags : Nat → Substitution → Bool → Bool → Bool →
    Read (Substitution × Bool × Bool)
  | 0, s, anyCase, byLine, _ => return (s, anyCase, byLine)
  | n + 1, s, anyCase, byLine, counted => do
    match ← next with
    | none | some '\n' | some ';' => return (s, anyCase, byLine)
    | some 'i' | some 'I' => substitutionFlags n s true byLine counted
    | some 'm' | some 'M' => substitutionFlags n s anyCase true counted
    | some 'e' => substitutionFlags n { s with runs := true } anyCase byLine counted
    | some 'p' =>
      if s.prints != 0 then fail "multiple \x60p' options to \x60s' command"
      substitutionFlags n { s with prints := 1 } anyCase byLine counted
    | some 'g' =>
      if s.all then fail "multiple \x60g' options to \x60s' command"
      substitutionFlags n { s with all := true } anyCase byLine counted
    | some 'w' => return ({ s with file := some (← fileName) }, anyCase, byLine)
    | some c =>
      if c == '\x7d' || c == '#' then
        back (some c)
        return (s, anyCase, byLine)
      else if c.isDigit then
        if counted then fail "multiple number options to \x60s' command"
        let first ← number c
        if first == 0 then fail "number option to \x60s' command may not be zero"
        substitutionFlags n { s with first } anyCase byLine true
      else if isBlank c then substitutionFlags n s anyCase byLine counted
      else fail "unknown option to \x60s'"

/-- The greatest number of a group in a replacement. -/
def greatestGroup (ps : List Piece) : Nat :=
  ps.foldl
    (fun n p =>
      match p with
      | .group m => max n m
      | _ => n)
    0

/-- A substitution behind its letter. -/
def substitution : Read Substitution := do
  let unterminated := "unterminated \x60s' command"
  match ← next with
  | none => fail unterminated
  | some delimiter =>
    if delimiter == '\n' || delimiter == '\\' then fail unterminated
    match ← upTo delimiter true with
    | none => fail unterminated
    | some pattern =>
      match ← upTo delimiter false with
      | none => fail unterminated
      | some replacement =>
        let pieces := pieces (replacement.length + 1) [] replacement.toList
        let (s, anyCase, byLine) ←
          substitutionFlags (← bound) { regex := none, pieces } false false false
        let found ← regexOf anyCase byLine pattern
        let greatest := greatestGroup pieces
        match found with
        | some (_, groups) =>
          if groups < greatest then
            fail ("invalid reference \\" ++ toString greatest ++ " on \x60s' command's RHS")
        | none => pure ()
        return { s with regex := found.map (·.1) }

/-- A text of a list of characters to be replaced, or to replace others. -/
def replacementChars : Nat → List Char → List Char
  | 0, cs => cs
  | _, [] => []
  | n + 1, '\\' :: cs =>
    match Pattern.escape? cs, cs with
    | some (c, rest), _ => c :: replacementChars n rest
    | none, '\\' :: rest => '\\' :: replacementChars n rest
    | none, cs => '\\' :: replacementChars n cs
  | n + 1, c :: cs => c :: replacementChars n cs

/-- The pairs of characters behind the letter `y`. -/
def replacement : Read (List (Char × Char)) := do
  let unterminated := "unterminated \x60y' command"
  match ← next with
  | none => fail unterminated
  | some delimiter =>
    match ← upTo delimiter false with
    | none => fail unterminated
    | some source =>
      match ← upTo delimiter false with
      | none => fail unterminated
      | some target =>
        let read (s : String) := replacementChars (s.length + 1) s.toList
        let (a, b) := (read source, read target)
        if a.length != b.length then
          fail "strings for \x60y' command are different lengths"
        endOfCommand
        return a.zip b

/-! ## Commands -/

/-- Add a command. -/
def add (command : Command) : Read Unit :=
  modify fun r => { r with commands := r.commands.push command }

/-- An optional number behind a command. -/
def optionalNumber : Read (Option Nat) := do
  match ← nextNonblank with
  | some c =>
    if c.isDigit then return some (← number c)
    back (some c)
    return none
  | none => return none

/-- The commands that are one letter. -/
def letters : List (Char × Action) :=
  [('=', .number), ('d', .delete), ('D', .deleteFirst), ('F', .name), ('g', .get),
   ('G', .getAppend), ('h', .hold), ('H', .holdAppend), ('n', .next), ('N', .nextAppend),
   ('p', .print), ('P', .printFirst), ('z', .zap), ('x', .exchange)]

/-- A command by its letter; `base` has its addresses. -/
def command (base : Command) (letter : Option Char) : Read Unit := do
  match letter with
  | none => fail "missing command"
  | some '#' =>
    if base.first.isSome then fail "comments don't accept any addresses"
    let r ← get
    let text ← takeWhile (· != '\n')
    let _ ← next
    if text.head? == some 'n' && r.isFirst && r.place == 1 then
      modify fun r => { r with silent := true }
  | some '\x7b' =>
    modify fun r => { r with blocks := r.commands.size :: r.blocks }
    add { base with action := .block 0 }
  | some '\x7d' =>
    match (← get).blocks with
    | [] => fail "unexpected \x60\x7d'"
    | start :: outer =>
      if base.first.isSome then fail "\x7d doesn't want any addresses"
      endOfCommand
      modify fun r =>
        { r with
          blocks := outer
          commands := (r.commands.modify start fun c =>
            { c with action := .block r.commands.size }).push { base with action := .nothing } }
  | some ':' =>
    if base.first.isSome then fail ": doesn't want any addresses"
    let name ← label
    if name.isEmpty then fail "\":\" lacks a label"
    modify fun r => { r with labels := (name, r.commands.size) :: r.labels }
    endOfCommand
  | some 'a' | some 'i' | some 'c' =>
    let (text, goesOn) ← commandText
    if goesOn then
      modify fun r => { r with pending := some (r.commands.size, text) }
    let shown := if goesOn && text.isEmpty then "" else shownText text
    add { base with
      action := match letter with
        | some 'a' => .append shown
        | some 'i' => .insert shown
        | _ => .change shown }
  | some 'b' | some 't' | some 'T' =>
    let name ← target
    unless name.isEmpty do
      modify fun r => { r with jumps := (r.commands.size, name) :: r.jumps }
    let far := 2 ^ 32
    add { base with
      action := if letter == some 'b' then .jump far else .jumpIf (letter == some 't') far }
  | some 'q' | some 'Q' =>
    if base.second.isSome then fail "command only uses one address"
    let status ← optionalNumber
    endOfCommand
    add { base with action := .quit (status.getD 0) (letter == some 'Q') }
  | some 'l' | some 'L' =>
    let width ← optionalNumber
    endOfCommand
    add { base with action := .list width }
  | some 'e' =>
    let text ← takeWhile (· != '\n')
    let _ ← next
    add { base with action := .run (String.ofList (text.dropWhile isBlank)) }
  | some 'v' =>
    let version ← target
    if "4.9" < version then fail "expected newer version of sed"
  | some 'r' => add { base with action := .readFile (← fileName) }
  | some 'R' => add { base with action := .readLine (← fileName) }
  | some 'w' => add { base with action := .write (← fileName) }
  | some 'W' => add { base with action := .writeFirst (← fileName) }
  | some 's' => add { base with action := .substitute (← substitution) }
  | some 'y' => add { base with action := .replace (← replacement) }
  | some c =>
    match letters.lookup c with
    | some action =>
      endOfCommand
      add { base with action }
    | none => fail ("unknown command: \x60" ++ String.singleton c ++ "'")

/-- The second address of a command behind its first one, and the character after it. -/
def secondAddress : Read (Option RangeEnd × Option Char) := do
  match ← nextNonblank with
  | some ',' =>
    let second ←
      match ← address (← nextNonblank) with
      | .address a => pure (RangeEnd.at a)
      | .after n => pure (.after n)
      | .multiple n => pure (.multiple n)
      | .nothing => fail "unexpected \x60,'"
    return (some second, ← nextNonblank)
  | c => return (none, c)

/-- A command that a character begins. -/
def oneCommand (c : Char) : Read Unit := do
  let (first, second, letter) ←
    match ← address (some c) with
    | .nothing => pure (none, none, some c)
    | .address a =>
      let (second, letter) ← secondAddress
      pure (some a, second, letter)
    | _ => fail "invalid usage of +N or ~N as first address"
  let early : Bool :=
    match first with
    | some (.line 0) => true
    | _ => false
  if early then
    match second with
    | some (.at (.fits _)) => pure ()
    | _ => fail "invalid usage of line address 0"
  let (negated, letter) ←
    if letter == some '!' then
      match ← nextNonblank with
      | some '!' => fail "multiple \x60!'s"
      | c => pure (true, c)
    else pure (false, letter)
  command { first, second, negated, early, action := .nothing } letter

/-- All commands that are left. -/
def allCommands : Nat → Read Unit
  | 0 => return
  | n + 1 => do
    match ← nextWith (fun c => !(c == ';' || c == '\n' || isBlank c)) (← bound) with
    | none => return
    | some c =>
      oneCommand c
      allCommands n

/-- Go on with the text of a command from the part before. -/
def pendingText : Read Unit := do
  match (← get).pending with
  | none => return
  | some (place, before) =>
    modify fun r => { r with pending := none }
    let (text, goesOn) ← textLines (← bound) []
    let whole := if before.isEmpty then text else before ++ '\\' :: '\n' :: text
    if goesOn then modify fun r => { r with pending := some (place, whole) }
    let shown := shownText whole
    modify fun r =>
      { r with
        commands := r.commands.modify place fun c =>
          { c with
            action := match c.action with
              | .append _ => .append shown
              | .insert _ => .insert shown
              | _ => .change shown } }

/-- Read one part of a script. -/
def part (text : String) : Read Unit := do
  modify fun r => { r with chars := text.toList.toArray, place := 0 }
  pendingText
  allCommands (← bound)
  modify fun r => { r with isFirst := false }

end Read

/-- The script of what was read, or the label of a jump that there is not. -/
def Reading.script (r : Reading) : Except String Script := do
  let commands ← r.jumps.foldlM
    (fun (commands : Array Command) (place, name) =>
      match r.labels.lookup name with
      | none => .error name
      | some target =>
        .ok (commands.modify place fun c =>
          { c with
            action := match c.action with
              | .jumpIf made _ => .jumpIf made target
              | _ => .jump target }))
    r.commands
  return { commands, silent := r.silent }

end MonitorKeys.Shell.Tool.Sed
