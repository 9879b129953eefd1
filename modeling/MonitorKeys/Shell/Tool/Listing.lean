import MonitorKeys.Shell.Glob
import MonitorKeys.Shell.Printing
import MonitorKeys.Shell.Tool.Files

/-!
# Looking at the tree of files

`ls`, `find` and `stat` say what there is in the tree of files; `readlink`, `realpath`, `basename`,
`dirname` and `which` are about paths.
-/

namespace MonitorKeys.Shell.Tool.Listing

/-! ## Paths -/

/-- A path without the slashes at its end. -/
def withoutSlashes (path : String) : String :=
  let cs := (path.toList.reverse.dropWhile (· == '/')).reverse
  if cs.isEmpty && !path.isEmpty then "/" else String.ofList cs

/-- The part of a path behind the last slash. -/
def baseOf (path : String) : String :=
  let path := withoutSlashes path
  if path == "/" then "/" else (path.splitOn "/").getLast?.getD ""

/-- `basename`. -/
def basename : Tool := fun _ words => do
  let given ← Options.read
    { flags := "az", values := "s", anywhere := false
      long := [("multiple", 'a'), ("suffix", 's'), ("zero", 'z')] } words.tail
  let ending := if given.has 'z' then "\x00" else "\n"
  let several := given.has 'a' || given.has 's'
  let without (suffix path : String) : String :=
    let base := baseOf path
    if base.endsWith suffix && base != suffix && base != "/" then
      (base.dropEnd suffix.length).toString
    else base
  match given.operands with
  | [] => misuse "missing operand"
  | path :: rest =>
    if several then
      for path in given.operands do print (without ((given.last? 's').getD "") path ++ ending)
    else
      match rest with
      | _ :: extra :: _ => misuse ("extra operand " ++ quote extra)
      | [suffix] => print (without suffix path ++ ending)
      | [] => print (baseOf path ++ ending)

/-- The part of a path before the last slash. -/
def directoryOf (path : String) : String :=
  let cs := (withoutSlashes path).toList.reverse
  match cs.dropWhile (· != '/') with
  | [] => "."
  | rest => if cs == ['/'] then "/" else withoutSlashes (String.ofList rest.reverse)

/-- `dirname`. -/
def dirname : Tool := fun _ words => do
  let given ← Options.read { flags := "z", long := [("zero", 'z')], anywhere := false } words.tail
  if given.operands.isEmpty then misuse "missing operand"
  for path in given.operands do
    print (directoryOf path ++ if given.has 'z' then "\x00" else "\n")

/-- The absolute path that a path writes, where links and what is missing do not count. -/
def plainPath (directory path : String) : String :=
  Tree.absolute ((Tree.partsFrom directory path).foldl
    (fun parts part => if part == ".." then parts.dropLast else parts ++ [part]) [])

/-- The absolute path without links that a path leads to: what has to be there is said by a letter,
`e` for all of it, `f` for all but the last part, and `m` for nothing. -/
def canonical (need : Char) (path : String) : Run (Except FileError String) := do
  match ← Run.resolve path with
  | .ok place =>
    if need == 'e' && place.number.isNone then return .error .missing
    return .ok place.path
  | .error e =>
    if need == 'm' && !path.isEmpty then
      return .ok (plainPath (← Run.process).directory path)
    return .error e

/-- `readlink`. -/
def readlink : Tool := fun _ words => do
  let given ← Options.read
    { flags := "efmnqsvz"
      long := [("canonicalize", 'f'), ("canonicalize-existing", 'e'),
        ("canonicalize-missing", 'm'), ("no-newline", 'n'), ("quiet", 'q'), ("silent", 's'),
        ("verbose", 'v'), ("zero", 'z')] } words.tail
  if given.operands.isEmpty then misuse "missing operand"
  let ending :=
    if given.has 'n' && given.operands.length == 1 then ""
    else if given.has 'z' then "\x00" else "\n"
  for path in given.operands do
    let found : Except FileError String ←
      match given.lastOf? "efm" with
      | some need => canonical need path
      | none => do
        match ← Files.find path with
        | .ok (_, .link target) => pure (.ok target)
        | .ok _ => pure (.error .invalid)
        | .error e => pure (.error e)
    match found with
    | .ok text => print (text ++ ending)
    | .error e =>
      if given.has 'v' then complain (fileName path ++ ": " ++ e.text)
      Run.setStatus 1

/-- `realpath`. -/
def realpath : Tool := fun _ words => do
  let given ← Options.read
    { flags := "eEmLPqsz"
      long := [("canonicalize-existing", 'e'), ("canonicalize-missing", 'm'), ("quiet", 'q'),
        ("strip", 's'), ("no-symlinks", 's'), ("zero", 'z')] } words.tail
  if given.operands.isEmpty then misuse "missing operand"
  for path in given.operands do
    let found ← canonical ((given.lastOf? "em").getD 'f') path
    let ending := if given.has 'z' then "\x00" else "\n"
    match found with
    | .ok text =>
      let directory := (← Run.process).directory
      print ((if given.has 's' then plainPath directory path else text) ++ ending)
    | .error e =>
      unless given.has 'q' do complain (fileName path ++ ": " ++ e.text)
      Run.setStatus 1

/-- `which`. -/
def which : Tool := fun _ words => do
  let all := words.tail.contains "-a"
  let names := words.tail.filter (· != "-a")
  if names.isEmpty then Run.setStatus 1
  let path := (← Run.value? "PATH").getD ""
  for name in names do
    let places := if name.contains '/' then [name] else
      (path.splitOn ":").map fun directory => Lookup.joined directory name
    let found ← places.filterM fun place => do
      match ← Run.node? place with
      | some (.program _) => return true
      | some (.file _ mode) => return mode &&& 0o111 != 0
      | _ => return false
    if found.isEmpty then Run.setStatus 1
    for place in if all then found else found.take 1 do print (place ++ "\n")

/-! ## Directories -/

/-- How a name looks in a list. -/
structure Look where
  marked : Bool
  slashes : Bool
  quoted : Bool
  long : Bool
  numeric : Bool

/-- The sign behind a name. -/
def Look.mark (l : Look) (node : Node) : String :=
  match node with
  | .directory _ => if l.marked || l.slashes then "/" else ""
  | .link _ => if l.marked && !l.long then "@" else ""
  | .program _ => if l.marked then "*" else ""
  | .file _ mode => if l.marked && mode &&& 0o111 != 0 then "*" else ""
  | _ => ""

/-- The first letter of the mode of a node. -/
def kindLetter : Node → String
  | .directory _ => "d"
  | .link _ => "l"
  | .device (.descriptor _) => "l"
  | .device _ => "c"
  | _ => "-"

/-- The size of a node. -/
def sizeOf : Node → Nat
  | .file content _ => content.size
  | .directory _ => 4096
  | .link target => target.length
  | _ => 0

/-- A name in a list, with all that is to be said about it. -/
def Look.line (l : Look) (width links : Nat) (name : String) (node : Node) : String :=
  let shown := (if l.quoted then "\"" ++ name ++ "\"" else name) ++ l.mark node
  if !l.long then shown
  else
    let owner := if l.numeric then "0 0" else "root root"
    let target := match node with
      | .link target => " -> " ++ target
      | _ => ""
    let size := match node with
      | .device _ => "1, 3"
      | _ => Raw.padLeft width ' ' (toString (sizeOf node))
    kindLetter node ++ Files.modeLetters (Files.modeOf node) ++ " " ++ toString links ++ " "
      ++ owner ++ " " ++ size ++ " Jan  1 00:00 " ++ shown ++ target

/-- How many names a node has. -/
def linksOf (tree : Tree) (path : String) (number : Nat) : Nat :=
  match tree.node? number with
  | some (.directory _) =>
    2 + ((tree.list path).filter fun name =>
      match (tree.number? (Files.below path name)).bind tree.node? with
      | some (.directory _) => true
      | _ => false).length
  | _ => (tree.names.filter (·.2 == number)).length

/-- Names in lines, as options ask for. -/
def arranged (given : Given) (look : Look) (entries : List (String × String × Nat × Node))
    (tree : Tree) : String :=
  let width := (entries.map fun e => (toString (sizeOf e.2.2.2)).length).foldl max 1
  let lines := entries.map fun (name, path, number, node) =>
    (if given.has 'i' then toString (number + 1000) ++ " " else "")
      ++ (if given.has 's' then (if sizeOf node == 0 then "0 " else "4 ") else "")
      ++ look.line width (linksOf tree path number) name node
  if lines.isEmpty then ""
  else
    match given.lastOf? "1mCxl" with
    | some 'm' => ", ".intercalate lines ++ "\n"
    | some 'C' | some 'x' => "  ".intercalate lines ++ "\n"
    | _ => Raw.unlines lines

/-- Names in the order that options ask for. -/
def inOrder (given : Given) (entries : List (String × String × Nat × Node)) :
    List (String × String × Nat × Node) :=
  let sorted := entries.mergeSort fun a b => decide (a.1 ≤ b.1)
  let sorted :=
    if given.has 'S' then sorted.mergeSort fun a b => decide (sizeOf b.2.2.2 ≤ sizeOf a.2.2.2)
    else sorted
  if given.has 'r' then sorted.reverse else sorted

/-- The entries of a directory. -/
def entriesOf (given : Given) (tree : Tree) (path : String) : List (String × String × Nat × Node) :=
  let names := (tree.list path).filter fun name =>
    given.has 'a' || given.has 'A' || !name.startsWith "."
  let inner := names.filterMap fun name => do
    let place := Files.below path name
    let number ← tree.number? place
    let node ← tree.node? number
    return (name, place, number, node)
  let dots := if !given.has 'a' || given.lastOf? "aA" == some 'A' then [] else
    [(".", path), ("..", Tree.parent path)].filterMap fun (name, place) => do
      let number ← tree.number? place
      let node ← tree.node? number
      return (name, place, number, node)
  inOrder given (dots ++ inner)

/-- The directories below some, in the order in which they are listed.  The first argument bounds
the depth. -/
def directoriesBelow (given : Given) (tree : Tree) : Nat → String × String → List (String × String)
  | 0, d => [d]
  | n + 1, (shown, path) =>
    (shown, path) :: (entriesOf given tree path).flatMap fun (name, place, _, node) =>
      match node with
      | .directory _ =>
        if name == "." || name == ".." then []
        else directoriesBelow given tree n (Files.below shown name, place)
      | _ => []

/-- `ls`. -/
def ls : Tool := fun _ words => do
  let given ← Options.read
    { flags := "aAbBcCdDfFgGhHiklLmnNoOpqQrRsStuUvxXZ1", values := "ITw", maybes := "K"
      long := [("all", 'a'), ("almost-all", 'A'), ("directory", 'd'), ("classify", 'F'),
        ("recursive", 'R'), ("reverse", 'r'), ("human-readable", 'h'), ("inode", 'i'),
        ("size", 's'), ("color", 'K'), ("quote-name", 'Q'), ("numeric-uid-gid", 'n')]
      misuse := 2 } words.tail
  let look : Look :=
    { marked := given.has 'F', slashes := given.has 'p', quoted := given.has 'Q'
      long := given.has 'l' || given.has 'n' || given.has 'o' || given.has 'g'
      numeric := given.has 'n' }
  let paths := if given.operands.isEmpty then ["."] else given.operands
  let mut files := []
  let mut directories := []
  for path in paths do
    match ← Files.find path (!(given.has 'd' || look.long)) with
    | .error e => note ("cannot access " ++ quote path ++ ": " ++ e.text) 2
    | .ok (place, node) =>
      let entry := (path, place.path, place.number.getD 0, node)
      let isDirectory : Bool := kindLetter node == "d"
      if isDirectory && !given.has 'd' then directories := entry :: directories
      else files := entry :: files
  let tree := (← Run.system).tree
  let first := arranged given look (inOrder given files) tree
  let listed := (inOrder given directories).flatMap fun (name, place, _, _) =>
    if given.has 'R' then directoriesBelow given tree 50 (name, place) else [(name, place)]
  let headed := 1 < paths.length || given.has 'R'
  let blocks := listed.map fun (name, place) =>
    let entries := entriesOf given tree place
    let total := if look.long || given.has 's' then
      "total " ++ toString (4 * (entries.filter fun e => sizeOf e.2.2.2 != 0).length) ++ "\n"
      else ""
    (if headed then name ++ ":\n" else "") ++ total ++ arranged given look entries tree
  let out := "\n".intercalate (if first.isEmpty then blocks else first :: blocks)
  print out 2

/-! ## Properties of files -/

/-- The text for a directive of a format. -/
def property (path : String) (place : Tree.Place) (node : Node) (links : Nat) (c : Char) : String :=
  match c with
  | 'n' => path
  | 'N' => quote path
  | 's' => toString (sizeOf node)
  | 'a' => Raw.inBase 8 (Files.modeOf node)
  | 'A' => kindLetter node ++ Files.modeLetters (Files.modeOf node)
  | 'F' => Files.kindWords node
  | 'U' | 'G' => "root"
  | 'u' | 'g' => "0"
  | 'h' => toString links
  | 'i' => toString (place.number.getD 0 + 1000)
  | 'b' => toString ((sizeOf node + 4095) / 4096 * 8)
  | 'B' => "512"
  | 'o' => "4096"
  | '%' => "%"
  | _ => "0"

/-- A format with its directives replaced.  The first argument bounds the number of steps. -/
def formatted (text : Char → String) (escapes : Bool) : Nat → List Char → String → String
  | 0, _, out => out
  | _, [], out => out
  | n + 1, '%' :: cs, out =>
    let flags := cs.takeWhile fun c => c.isDigit || c == '-' || c == '.'
    match cs.drop flags.length with
    | c :: rest =>
      let width := (Raw.digits? 10 (flags.filter Char.isDigit)).getD 0
      let s := text c
      let pad := if flags.head? == some '-' then Raw.padRight else Raw.padLeft
      let s := pad width ' ' s
      formatted text escapes n rest (out ++ s)
    | [] => out.push '%'
  | n + 1, c :: cs, out =>
    if escapes && c == '\\' then
      let (d, rest) := Printing.escape .system cs
      formatted text escapes n rest (out.push d)
    else formatted text escapes n cs (out.push c)

/-- `stat`. -/
def stat : Tool := fun _ words => do
  let given ← Options.read
    { flags := "Lft", values := "cP"
      long := [("dereference", 'L'), ("file-system", 'f'), ("format", 'c'), ("printf", 'P'),
        ("terse", 't')] } words.tail
  if given.operands.isEmpty then misuse "missing operand"
  for path in given.operands do
    match ← Files.find path (given.has 'L') with
    | .error e => note ("cannot statx " ++ quote path ++ ": " ++ e.text)
    | .ok (place, node) =>
      let links := linksOf (← Run.system).tree place.path (place.number.getD 0)
      let text := property path place node links
      match given.last? 'P', given.last? 'c' with
      | some format, _ => print (formatted text true (format.length + 1) format.toList "")
      | none, some format =>
        print (formatted text false (format.length + 1) format.toList "" ++ "\n")
      | none, none =>
        print ("  File: " ++ path ++ "\n  Size: " ++ Raw.padRight 10 ' ' (text 's') ++ "\tBlocks: "
          ++ Raw.padRight 10 ' ' (text 'b') ++ " IO Block: 4096   " ++ text 'F' ++ "\n")

/-! ## Searching -/

/-- A condition on files, which can do something, too. -/
inductive Condition where
  | always (value : Bool)
  | name (pattern : String) (anyCase : Bool)
  | path (pattern : String) (anyCase : Bool)
  | type (letters : List Char)
  | empty
  | size (sign : Option Char) (count unit : Nat)
  | print (ending : String)
  | format (text : String)
  | delete
  | prune
  | quit
  | start (command : List String)
  /-- A command that is started once for all files. -/
  | startAll (place : Nat) (command : List String)
  | negation (c : Condition)
  | both (a b : Condition)
  | either (a b : Condition)
  | each (a b : Condition)

namespace Condition

/-- Whether a condition does something by itself. -/
def acts : Condition → Bool
  | print _ | format _ | delete | start _ | startAll _ _ | quit => true
  | negation c => c.acts
  | both a b | either a b | each a b => a.acts || b.acts
  | _ => false

end Condition

/-- What is left of the arguments of `find`. -/
structure Criteria where
  rest : List String
  least : Nat := 0
  most : Option Nat := none
  depthFirst : Bool := false
  commands : Nat := 0

/-- A reader of conditions. -/
abbrev Read := StateT Criteria Run

/-- The argument of a condition. -/
def argument (name : String) : Read String := do
  match (← get).rest with
  | a :: rest =>
    modify fun c => { c with rest }
    return a
  | [] => die ("missing argument to \x60" ++ name ++ "'")

/-- The number that an argument of a condition writes. -/
def depthArgument (name : String) : Read Nat := do
  let a ← argument name
  match Raw.nat? a with
  | some n => return n
  | none =>
    die ("Expected a positive decimal integer argument to " ++ name ++ ", but got " ++ quote a)

/-- The command of a condition, and whether it is started once for all files. -/
def commandArgument (name : String) : Read (List String × Bool) := do
  let words := (← get).rest
  let command := words.takeWhile fun w => w != ";"
  let plus := (words.zip words.tail).findIdx? fun (a, b) => a == "\x7b\x7d" && b == "+"
  match plus with
  | some i =>
    if i < command.length then
      modify fun c => { c with rest := words.drop (i + 2) }
      return (words.take i, true)
  | none => pure ()
  if command.length == words.length || command.isEmpty then
    die ("missing argument to \x60" ++ name ++ "'")
  modify fun c => { c with rest := words.drop (command.length + 1) }
  return (command, false)

/-- One condition without operators. -/
def primary (word : String) : Read Condition := do
  match word with
  | "-name" => return .name (← argument word) false
  | "-iname" => return .name (← argument word) true
  | "-path" | "-wholename" => return .path (← argument word) false
  | "-ipath" => return .path (← argument word) true
  | "-type" =>
    let a ← argument word
    match a.toList.find? fun c => !"bcdpflsD,".toList.contains c with
    | some c => die ("Unknown argument to -type: " ++ String.singleton c)
    | none => return .type (a.toList.filter (· != ','))
  | "-empty" => return .empty
  | "-size" =>
    let a ← argument word
    let sign := a.toList.head?.filter fun c => c == '+' || c == '-'
    let body := if sign.isSome then a.toList.drop 1 else a.toList
    let ds := body.takeWhile Char.isDigit
    let units := [('c', 1), ('w', 2), ('b', 512), ('k', 1024), ('M', 2 ^ 20), ('G', 2 ^ 30)]
    let unit := (body.drop ds.length).head?.elim (some 512) fun c => units.lookup c
    match Raw.digits? 10 ds, unit with
    | some n, some unit => return .size sign n unit
    | _, _ => die ("Invalid argument \x60" ++ a ++ "' to -size")
  | "-print" => return .print "\n"
  | "-print0" => return .print "\x00"
  | "-printf" => return .format (← argument word)
  | "-delete" =>
    modify fun c => { c with depthFirst := true }
    return .delete
  | "-prune" => return .prune
  | "-quit" => return .quit
  | "-true" => return .always true
  | "-false" => return .always false
  | "-exec" | "-execdir" | "-ok" =>
    let (command, once) ← commandArgument word
    if once then
      let n := (← get).commands
      modify fun c => { c with commands := n + 1 }
      return .startAll n command
    return .start command
  | "-maxdepth" =>
    let n ← depthArgument word
    modify fun c => { c with most := some n }
    return .always true
  | "-mindepth" =>
    let n ← depthArgument word
    modify fun c => { c with least := n }
    return .always true
  | "-depth" | "-d" =>
    modify fun c => { c with depthFirst := true }
    return .always true
  | "-follow" | "-xdev" | "-mount" | "-noleaf" | "-daystart" => return .always true
  | "-newer" | "-mtime" | "-mmin" | "-atime" | "-ctime" | "-perm" | "-user" | "-group"
  | "-links" =>
    let _ ← argument word
    return .always true
  | "-readable" | "-writable" => return .always true
  | _ =>
    if word.startsWith "-" then die ("unknown predicate \x60" ++ word ++ "'")
    complain ("paths must precede expression: \x60" ++ word ++ "'")
    leave 1

/-- A condition with a negation in front, or in parentheses.  The first argument bounds the
number of negations. -/
def unary (whole : Read Condition) : Nat → Read Condition
  | 0 => return .always true
  | n + 1 => do
    match (← get).rest with
    | [] => die "invalid expression; expected to find an operand"
    | word :: rest =>
      modify fun c => { c with rest }
      if word == "!" || word == "-not" then return .negation (← unary whole n)
      else if word == "(" then
        let unclosed {α : Type} : Read α :=
          die ("invalid expression; expected to find a ')' but didn't see one. "
            ++ "Perhaps you need an extra predicate after '('")
        if (← get).rest.isEmpty then unclosed
        let inner ← whole
        match (← get).rest with
        | ")" :: rest =>
          modify fun c => { c with rest }
          return inner
        | _ => unclosed
      else primary word

/-- Conditions that all have to hold, given those before. -/
def conjunction (one : Read Condition) : Nat → Condition → Read Condition
  | 0, c => return c
  | n + 1, c => do
    match (← get).rest with
    | [] => return c
    | word :: rest =>
      if word == "-o" || word == "-or" || word == "," || word == ")" then return c
      if word == "-a" || word == "-and" then modify fun s => { s with rest }
      conjunction one n (.both c (← one))

/-- Conditions one of which has to hold, given those before. -/
def disjunction (one : Read Condition) : Nat → Condition → Read Condition
  | 0, c => return c
  | n + 1, c => do
    match (← get).rest with
    | word :: rest =>
      if word == "-o" || word == "-or" then
        modify fun s => { s with rest }
        disjunction one n (.either c (← one))
      else if word == "," then
        modify fun s => { s with rest }
        disjunction one n (.each c (← one))
      else return c
    | [] => return c

/-- Any condition.  The first argument bounds the depth of parentheses. -/
def condition : Nat → Read Condition
  | 0 => return .always true
  | n + 1 => do
    let bound := (← get).rest.length + 1
    let one := unary (condition n) bound
    let all : Read Condition := do conjunction one bound (← one)
    disjunction all bound (← all)

/-- A file that was found. -/
structure Found where
  shown : String
  place : String
  depth : Nat
  node : Node

/-- What testing files has led to: the files for commands that are started once, whether the
directory is left out, and whether all is over. -/
structure Progress where
  collected : List (Nat × String) := []
  pruned : Bool := false
  finished : Bool := false

/-- A way to test files. -/
abbrev Testing := StateT Progress Run

/-- Whether a pattern matches a text. -/
def fits (pattern : String) (anyCase : Bool) (s : String) : Bool :=
  let lower (t : String) : String := if anyCase then t.map Char.toLower else t
  Glob.fits (Glob.glyphs false (lower pattern)) (lower s).toList

/-- Whether a node is of a type. -/
def isOfType (node : Node) (c : Char) : Bool :=
  match node with
  | .file _ _ | .program _ => c == 'f'
  | .directory _ => c == 'd'
  | .link _ | .device (.descriptor _) => c == 'l'
  | .device _ => c == 'c'

/-- Whether a condition holds of a file; what it does is done. -/
def holds (interp : Interpreter) (f : Found) : Condition → Testing Bool
  | .always v => return v
  | .name p anyCase => return fits p anyCase (baseOf f.shown)
  | .path p anyCase => return fits p anyCase f.shown
  | .type letters => return letters.any (isOfType f.node)
  | .empty => do
    match f.node with
    | .directory _ => return ((← Run.system).tree.list f.place).isEmpty
    | .file content _ => return content.size == 0
    | _ => return false
  | .size sign count unit =>
    let units := (sizeOf f.node + unit - 1) / unit
    return match sign with
      | some '+' => count < units
      | some _ => units < count
      | none => units == count
  | .print ending => do
    Tool.print (f.shown ++ ending)
    return true
  | .format text => do
    let directive (c : Char) : String :=
      match c with
      | 'p' => f.shown
      | 'f' => baseOf f.shown
      | 'h' => directoryOf f.shown
      | 'd' => toString f.depth
      | 'y' => if isOfType f.node 'd' then "d" else if isOfType f.node 'l' then "l" else "f"
      | 'm' => Raw.inBase 8 (Files.modeOf f.node)
      | 'M' => kindLetter f.node ++ Files.modeLetters (Files.modeOf f.node)
      | 's' => toString (sizeOf f.node)
      | 'u' | 'g' => "root"
      | '%' => "%"
      | _ => ""
    Tool.print (formatted directive true (text.length + 1) text.toList "")
    return true
  | .delete => do
    match f.node with
    | .directory _ =>
      if f.shown == "." then return true
      if !((← Run.system).tree.list f.place).isEmpty then
        note ("cannot delete " ++ quote f.shown ++ ": " ++ FileError.text .notEmpty)
        return false
    | _ => pure ()
    Files.erase f.place
    return true
  | .prune => do
    modify fun p => { p with pruned := true }
    return true
  | .quit => do
    modify fun p => { p with finished := true }
    return true
  | .start command => do
    let words := command.map fun w => w.replace "\x7b\x7d" f.shown
    let failing (e : FileError) : Run Unit := do
      complain (quote (words.headD "") ++ ": " ++ e.text)
      Run.setStatus 1
    return (← Launch.run interp words failing) == .code 0
  | .startAll place _ => do
    modify fun p => { p with collected := (place, f.shown) :: p.collected }
    return true
  | .negation c => return !(← holds interp f c)
  | .both a b => do
    if ← holds interp f a then holds interp f b else return false
  | .either a b => do
    if ← holds interp f a then return true else holds interp f b
  | .each a b => do
    let _ ← holds interp f a
    holds interp f b

/-- The commands that are started once. -/
def Condition.commands : Condition → List (Nat × List String)
  | startAll place command => [(place, command)]
  | negation c => c.commands
  | both a b | either a b | each a b => a.commands ++ b.commands
  | _ => []

/-- Test a file, and all below it.  The first argument bounds the depth. -/
def visit (interp : Interpreter) (criteria : Criteria) (c : Condition) : Nat → Found → Testing Unit
  | 0, _ => return
  | n + 1, f => do
    let test : Testing Unit := do
      if criteria.least ≤ f.depth && !(← get).finished then
        let _ ← holds interp f c
    unless criteria.depthFirst do test
    let pruned := (← get).pruned
    modify fun p => { p with pruned := false }
    if !pruned && !(← get).finished && criteria.most.all (f.depth < ·) then
      match f.node with
      | .directory _ =>
        let tree := (← Run.system).tree
        for name in tree.list f.place do
          let place := Files.below f.place name
          if let some node := (tree.number? place).bind tree.node? then
            visit interp criteria c n ⟨Files.below f.shown name, place, f.depth + 1, node⟩
      | _ => pure ()
    if criteria.depthFirst then test

/-- `find`. -/
def find : Tool := fun interp words => do
  let arguments := words.tail.dropWhile fun a => a == "-L" || a == "-P" || a == "-H"
  let isPath (a : String) : Bool :=
    !(a.startsWith "-" && 1 < a.length) && a != "!" && a != "("
  let paths := arguments.takeWhile isPath
  let criteria : Criteria := { rest := arguments.drop paths.length }
  let (c, criteria) ←
    if criteria.rest.isEmpty then pure (Condition.always true, criteria)
    else (condition (criteria.rest.length + 1)).run criteria
  if let word :: _ := criteria.rest then
    if word == ")" then die "invalid expression; you have too many ')'"
  let c := if c.acts then c else .both c (.print "\n")
  let all : Testing Unit := do
    for path in if paths.isEmpty then ["."] else paths do
      match ← Files.find path with
      | .error e => note (quote path ++ ": " ++ e.text)
      | .ok (place, node) => visit interp criteria c 100 ⟨path, place.path, 0, node⟩
  let (_, progress) ← all.run {}
  for (place, command) in c.commands do
    let files := (progress.collected.reverse.filter (·.1 == place)).map (·.2)
    unless files.isEmpty do
      let failing (e : FileError) : Run Unit := do
        complain (quote (command.headD "") ++ ": " ++ e.text)
        Run.setStatus 1
      if (← Launch.run interp (command ++ files) failing) != .code 0 then Run.setStatus 1

end MonitorKeys.Shell.Tool.Listing
