import MonitorKeys.Shell.Glob
import MonitorKeys.Shell.Pattern
import MonitorKeys.Shell.Tool.Copying

/-!
# Looking for lines

`grep` prints the lines of files that match one of some patterns, or says something about them.
-/

namespace MonitorKeys.Shell.Tool.Grep

/-! ## What is looked for -/

/-- How a line is matched. -/
structure Search where
  patterns : List Regex
  wholeLine : Bool
  wholeWord : Bool

/-- Whether a match does not begin or end within a word. -/
def isWord (text : Array Char) (m : Regex.Match) : Bool :=
  let isPart (i : Nat) : Bool := (text[i]?).any CharSet.wordChars.contains
  !(m.start != 0 && isPart (m.start - 1)) && !isPart m.stop

/-- The match that begins at a place and satisfies the conditions, the longest first. -/
def Search.at? (s : Search) (text : Array Char) (start : Nat) : Option Regex.Match :=
  let found := s.patterns.flatMap fun r =>
    (r.ends text r.looksBack ⟨start, []⟩).map fun spot =>
      (⟨start, spot.place, spot.groups⟩ : Regex.Match)
  let fits (m : Regex.Match) : Bool :=
    (!s.wholeLine || (m.start == 0 && m.stop == text.size)) && (!s.wholeWord || isWord text m)
  (found.filter fits).foldl
    (fun best m =>
      match best with
      | none => some m
      | some b => if b.stop < m.stop then some m else best)
    none

/-- The first match from a place on, looking at no more than so many places. -/
def Search.from? (s : Search) (text : Array Char) : Nat → Nat → Option Regex.Match
  | 0, _ => none
  | n + 1, start =>
    if text.size < start then none
    else
      match s.at? text start with
      | some m => some m
      | none => s.from? text n (start + 1)

/-- Whether a line matches. -/
def Search.fits (s : Search) (line : List Char) : Bool :=
  let text := line.toArray
  if s.wholeLine then (s.at? text 0).isSome else (s.from? text (text.size + 1) 0).isSome

/-- The matches of a line that are not empty, one behind the other.  The first argument bounds their
number. -/
def Search.matches_ (s : Search) (text : Array Char) : Nat → Nat → List (Nat × Nat)
  | 0, _ => []
  | n + 1, start =>
    match s.from? text (text.size + 1 - start) start with
    | none => []
    | some m =>
      if m.start == m.stop then s.matches_ text n (m.stop + 1)
      else (m.start, m.stop) :: s.matches_ text n m.stop

/-! ## What is printed -/

/-- What is printed about the lines of a file. -/
structure Report where
  invert : Bool
  count : Bool
  listing : Option Bool
  only : Bool
  quiet : Bool
  numbers : Bool
  offsets : Bool
  names : Bool
  color : Bool
  aligned : Bool
  /-- Whether a null character stands behind the name of a file. -/
  nulls : Bool
  most : Option Nat
  before : Nat
  after : Nat
  lineEnd : Char

/-- A part of a line between signs that make it stand out. -/
def painted (code s : String) : String :=
  "\x1b[" ++ code ++ "m\x1b[K" ++ s ++ "\x1b[m\x1b[K"

/-- What stands in front of a line. -/
def Report.front (r : Report) (name : String) (number offset : Nat) (sign : Char) : String :=
  let paint (code s : String) : String := if r.color then painted code s else s
  let mark := paint "36" (String.singleton sign)
  let nameEnd := if r.nulls then "\x00" else mark
  let padded (s : String) : String := if r.aligned then Raw.padLeft 4 ' ' s else s
  (if r.names then paint "35" name ++ nameEnd else "")
    ++ (if r.numbers then paint "32" (padded (toString number)) ++ mark else "")
    ++ (if r.offsets then paint "32" (padded (toString offset)) ++ mark else "")
    ++ (if r.aligned && (r.names || r.numbers || r.offsets) then "\t" else "")

/-- A line with its matches painted. -/
def Report.body (r : Report) (s : Search) (line : String) (selected : Bool) : String :=
  if !r.color || !selected || r.invert then line
  else
    let text := line.toList.toArray
    let slice (a b : Nat) : String := String.ofList (text.extract a b).toList
    let (out, last) := (s.matches_ text (text.size + 1) 0).foldl
      (fun (out, last) (a, b) => (out ++ slice last a ++ painted "01;31" (slice a b), b)) ("", 0)
    out ++ slice last text.size

/-- How far a file has been looked through. -/
structure Scan where
  out : List String := []
  /-- The lines before that were not printed, the last one first. -/
  held : List (Nat × Nat × String) := []
  /-- How many lines behind a match are still to be printed. -/
  owed : Nat := 0
  found : Nat := 0
  printed : Bool := false
  /-- The number of the last line that was printed. -/
  last : Nat := 0

/-- Look at one line. -/
def Report.step (r : Report) (s : Search) (name : String) (scan : Scan) (number offset : Nat)
    (line : String) : Scan :=
  let done := r.most.any (· ≤ scan.found)
  let matched := !done && (s.fits line.toList != r.invert)
  let ending := String.singleton r.lineEnd
  if matched then
    let found := scan.found + 1
    if r.count || r.listing.isSome || r.quiet then { scan with found }
    else if r.only then
      if r.invert then { scan with found }
      else
        let text := line.toList.toArray
        let parts := (s.matches_ text (text.size + 1) 0).map fun (a, b) =>
          let part := String.ofList (text.extract a b).toList
          r.front name number (offset + a) ':' ++ (if r.color then painted "01;31" part else part)
            ++ ending
        { scan with found, out := parts.reverse ++ scan.out }
    else
      let held := scan.held.take r.before
      let context := held.reverse.map fun (n, o, l) => r.front name n o '-' ++ l ++ ending
      let first := number - held.length
      let gap := (0 < r.before || 0 < r.after) && scan.printed && scan.last + 1 < first
      let mark := if gap then ["--\n"] else []
      let shown := r.front name number offset ':' ++ r.body s line true ++ ending
      { scan with
        found, out := shown :: context.reverse ++ mark ++ scan.out, held := [], owed := r.after
        printed := true, last := number }
  else if 0 < scan.owed && !r.only then
    { scan with
      out := (r.front name number offset '-' ++ line ++ ending) :: scan.out
      owed := scan.owed - 1, last := number }
  else if r.before == 0 then scan
  else { scan with held := (number, offset, line) :: scan.held.take r.before }

/-- The lines of a text that end with a character. -/
def splitAt (ending : Char) (s : String) : List String :=
  let parts := s.splitOn (String.singleton ending)
  if parts.getLast? == some "" then parts.dropLast else parts

/-- Look through a text. -/
def Report.scan (r : Report) (s : Search) (name text : String) : Scan :=
  let lines := splitAt r.lineEnd text
  (lines.foldl
    (fun (scan, number, offset) line =>
      (r.step s name scan number offset line, number + 1, offset + line.length + 1))
    (({} : Scan), 1, 0)).1

/-! ## The program -/

/-- How the program is used. -/
def usage : String :=
  "Usage: grep [OPTION]... PATTERNS [FILE]...\nTry 'grep --help' for more information.\n"

/-- The options of `grep`. -/
def options : Options :=
  { flags := "EFGPiyvwxcLlqsnbHhorRTUuVzZIaO", values := "efmABCDd\x01\x02\x03\x04\x05", maybes := "p"
    long := [("extended-regexp", 'E'), ("fixed-strings", 'F'), ("basic-regexp", 'G'),
      ("perl-regexp", 'P'), ("ignore-case", 'i'), ("invert-match", 'v'), ("word-regexp", 'w'),
      ("line-regexp", 'x'), ("count", 'c'), ("files-without-match", 'L'),
      ("files-with-matches", 'l'), ("quiet", 'q'), ("silent", 'q'), ("no-messages", 's'),
      ("line-number", 'n'), ("byte-offset", 'b'), ("with-filename", 'H'), ("no-filename", 'h'),
      ("only-matching", 'o'), ("recursive", 'r'), ("dereference-recursive", 'R'),
      ("initial-tab", 'T'), ("null-data", 'z'), ("null", 'Z'), ("text", 'a'), ("regexp", 'e'),
      ("file", 'f'), ("max-count", 'm'), ("after-context", 'A'), ("before-context", 'B'),
      ("context", 'C'), ("color", 'p'), ("colour", 'p'), ("line-buffered", 'u'),
      ("binary", 'U'), ("directories", 'd'), ("devices", 'D'), ("no-ignore-case", 'O'),
      ("include", '\x01'), ("exclude", '\x02'), ("exclude-dir", '\x03'), ("label", '\x04'),
      ("binary-files", '\x05')]
    misuse := 2, usage := some usage }

/-- A context that is written as a number by itself, as in `-2`, and the other arguments. -/
def bareContext (arguments : List String) : Option Nat × List String :=
  let isNumber (a : String) : Bool :=
    match a.toList with
    | '-' :: d :: ds => (d :: ds).all Char.isDigit
    | _ => false
  ((arguments.filter isNumber).getLast?.bind fun a => Raw.nat? (a.drop 1).toString,
    arguments.filter fun a => !isNumber a)

/-- The patterns that options give: those of arguments and those of files. -/
def givenPatterns (given : Given) : Run (List String) := do
  let mut all := []
  for (c, value) in given.options do
    if c == 'e' then all := all ++ value.splitOn "\n"
    if c == 'f' then
      match ← contentOf value with
      | .ok s => all := all ++ Raw.lines s
      | .error e => die (value ++ ": " ++ e.text) 2
  return all

/-- The expression for a pattern. -/
def regexOf (kind : Char) (anyCase : Bool) (s : String) : Run Regex := do
  if kind == 'F' then
    let set (c : Char) : CharSet := if anyCase then .anyCase (.single c) else .single c
    return s.toList.foldr (fun c r => .seq (.one (set c)) r) .empty
  match Pattern.read { extended := kind != 'G', lenient := true, anyCase } s with
  | .ok found =>
    for sign in found.passed do
      complain ("warning: " ++ sign ++ " at start of expression")
    return found.regex
  | .error e => die e.text 2

/-- Which files are searched. -/
structure Choice where
  /-- The patterns of names of files, one of which has to fit if there are any. -/
  only : List String
  /-- The patterns of names of files that are left out. -/
  but : List String
  /-- The patterns of names of directories that are left out. -/
  butBelow : List String

/-- Whether one of some patterns fits the last part of a path. -/
def fitsName (patterns : List String) (path : String) : Bool :=
  patterns.any fun p => Glob.fits (Glob.glyphs false p) (Tree.baseName path).toList

/-- Whether a file is searched. -/
def Choice.takes (c : Choice) (path : String) : Bool :=
  path == "-" || (c.only.isEmpty || fitsName c.only path) && !fitsName c.but path

/-- The files below a path, in the order in which they are searched; directories are followed to a
bounded depth. -/
def filesBelow (tree : Tree) (directory : String) (choice : Choice) :
    Nat → String → List String
  | 0, path => [path]
  | n + 1, path =>
    match tree.resolve directory path with
    | .ok place =>
      match place.number.bind tree.node? with
      | some (.directory _) =>
        (tree.list place.path).flatMap fun name =>
          let inner := if path.endsWith "/" then path ++ name else path ++ "/" ++ name
          if fitsName choice.butBelow name && isDirectory inner then []
          else filesBelow tree directory choice n inner
      | _ => [path].filter choice.takes
    | .error _ => [path].filter choice.takes
where
  /-- Whether a path leads to a directory. -/
  isDirectory (path : String) : Bool :=
    match (tree.resolve directory path).toOption.bind fun place =>
      place.number.bind tree.node? with
    | some (.directory _) => true
    | _ => false

/-- A number that an option gives. -/
def countOf (given : Given) (c : Char) (wrong : String → String) : Run (Option Nat) := do
  match given.last? c with
  | none => return none
  | some s =>
    match Raw.nat? s with
    | some n => return some n
    | none => die (wrong s) 2

/-- Whether nothing of the output is kept. -/
def isOutputLost : Run Bool := do
  match ← Run.openFile? 1 with
  | some (_, { target := .node n _, .. }) =>
    return match (← Run.system).tree.node? n with
      | some (.device .null) => true
      | _ => false
  | _ => return false

/-- `grep`, where `kind` says how patterns are written unless options do. -/
def grep (kind : Char) : Tool := fun _ words => do
  let (bare, arguments) := bareContext words.tail
  let given ← options.read arguments
  let wrongContext (s : String) : String := s ++ ": invalid context length argument"
  let context ← countOf given 'C' wrongContext
  let after ← countOf given 'A' wrongContext
  let before ← countOf given 'B' wrongContext
  let most ← countOf given 'm' fun _ => "invalid max count"
  let kind := (given.lastOf? "EFGP").getD kind
  let kind := if kind == 'P' then 'E' else kind
  let (patterns, paths) ←
    if given.has 'e' || given.has 'f' then pure (← givenPatterns given, given.operands)
    else
      match given.operands with
      | [] =>
        Run.warn usage
        leave 2
      | first :: rest => pure (first.splitOn "\n", rest)
  let anyCase := given.has 'i' || given.has 'y'
  let regexes ← patterns.mapM (regexOf kind anyCase)
  let search : Search :=
    { patterns := regexes, wholeLine := given.has 'x', wholeWord := given.has 'w' }
  let directories := (given.last? 'd').getD "read"
  unless ["read", "recurse", "skip"].contains directories do
    wrongWord "directories" directories ["'read'", "'recurse'", "'skip'"] 1 (some usage)
  let binaries := (given.last? '\x05').getD (if given.has 'I' then "without-match" else "binary")
  unless ["binary", "text", "without-match"].contains binaries do
    die "unknown binary-files type" 2
  let recursive := given.has 'r' || given.has 'R' || directories == "recurse"
  let here := paths.isEmpty && recursive
  let paths := if paths.isEmpty then [if recursive then "." else "-"] else paths
  let choice : Choice :=
    { only := given.all '\x01', but := given.all '\x02', butBelow := given.all '\x03' }
  let m ← get
  let files := if recursive then
      paths.flatMap (filesBelow m.system.tree m.process.directory choice 20)
    else paths.filter choice.takes
  let report : Report :=
    { invert := given.has 'v', count := given.has 'c'
      listing := (given.lastOf? "lL").map (· == 'l'), only := given.has 'o'
      quiet := given.has 'q' || (← isOutputLost), numbers := given.has 'n', offsets := given.has 'b'
      names := match given.lastOf? "hH" with
        | some c => c == 'H'
        | none => 1 < paths.length || recursive && files != paths
      color := given.last? 'p' == some "always", aligned := given.has 'T'
      nulls := given.has 'Z', most
      before := (before <|> context <|> bare).getD 0
      after := (after <|> context <|> bare).getD 0
      lineEnd := if given.has 'z' then '\x00' else '\n' }
  let mut any := false
  let mut failed := false
  let mut printed := false
  for path in files do
    let name :=
      if path == "-" then (given.last? '\x04').getD "(standard input)"
      else if here then (path.drop 2).toString
      else path
    match ← contentOf path with
    | .error e =>
      let passed := e == .isDirectory && directories == "skip"
      failed := failed || !passed
      unless passed || given.has 's' do complain ((if path == "-" then name else path) ++ ": " ++ e.text)
    | .ok text =>
      let binary :=
        text.contains '\x00' && !given.has 'a' && binaries != "text" && !given.has 'z'
      let text := if binary && binaries == "without-match" then "" else text
      let scan := report.scan search name text
      if report.quiet then
        if scan.found != 0 then leave 0
      else
        match report.listing with
        | some wanted =>
          if (scan.found != 0) == wanted then
            print (name ++ if report.nulls then "\x00" else "\n")
        | none =>
          if report.count then
            let front :=
              if report.names then name ++ (if report.nulls then "\x00" else ":") else ""
            print (front ++ toString scan.found ++ "\n")
          else
            let gap := 0 < report.before + report.after && printed && !scan.out.isEmpty
            if binary then
              if scan.found != 0 then complain (name ++ ": binary file matches")
            else
              if gap then print "--\n"
              print (String.join scan.out.reverse)
              if !scan.out.isEmpty then printed := true
      any := any || scan.found != 0
  Run.setStatus (if failed then 2 else if any then 0 else 1)

end MonitorKeys.Shell.Tool.Grep
