import MonitorKeys.Shell.Arithmetic
import MonitorKeys.Shell.Glob

/-!
# The expansion of words

The parts of a word are first replaced by what they stand for, which gives `Mark`s: characters that
know whether they were quoted and whether they may be split, and the places where fields end.  Then
marks are split into fields, and a field that is a file name pattern gives the names that it
matches.

* `Expand.fields` is the whole of it, for the words of a command.
* `Expand.text` and `Expand.glyphs` expand a word that stays one text.
-/

namespace MonitorKeys.Shell

/-- One step of an expanded word. -/
inductive Mark where
  | char (c : Char) (quoted : Bool) (split : Bool)
  /-- Quotes, which make a field also of nothing. -/
  | hold
  /-- The end of a field. -/
  | cut
  deriving DecidableEq, Repr

namespace Expand

/-- How a part of a word is expanded: whether fields can come of it, whether it stands within quotes,
and whether it is the word of a parameter that may be split. -/
structure Manner where
  full : Bool
  quoted : Bool := false
  inWord : Bool := false

/-- The marks of a text that an expansion gives. -/
def ofValue (manner : Manner) (quoted : Bool) (s : String) : List Mark :=
  let split := manner.full && !quoted
  s.toList.map fun c => .char c quoted split

/-! ## Parameters -/

/-- The letters of options in the order in which they are shown. -/
def optionLetters : List Char :=
  ['u', 'b', 'a', 'C', 'E', 'V', 'v', 'x', 's', 'n', 'm', 'i', 'I', 'f', 'e']

/-- The text between the positional parameters where they make up one text. -/
def separator : Run String := do
  match ← Run.lookVariable "IFS" with
  | some ⟨_, some s, _, _⟩ => return String.ofList (s.toList.take 1)
  | _ => return " "

/-- The value of a parameter. -/
def parameter? (name : String) : Run (Option String) := do
  let p ← Run.process
  match name.toList with
  | ['$'] => return some (toString p.shell)
  | ['?'] => return some (toString p.status)
  | ['#'] => return some (toString p.positional.length)
  | ['!'] => return p.lastJob.map toString
  | ['-'] => return some (String.ofList (optionLetters.filter p.options.contains))
  | ['@'] | ['*'] =>
    if p.positional.isEmpty then return none
    return some ((← separator).intercalate p.positional)
  | ['0'] => return some p.name
  | cs =>
    match Raw.digits? 10 cs with
    | some n => return p.positional[n - 1]?
    | none => Run.value? name

/-- The marks of the positional parameters, each a field of its own. -/
def positional (manner : Manner) (quoted : Bool) (values : List String) : List Mark :=
  let one (s : String) : List Mark :=
    if quoted then .hold :: ofValue manner true s else ofValue manner false s
  [Mark.cut].intercalate (values.map one)

/-- The text of marks. -/
def textOf (marks : List Mark) : String :=
  String.ofList (marks.filterMap fun
    | .char c _ _ => some c
    | _ => none)

/-- The characters of marks with whether they are quoted. -/
def glyphsOf (marks : List Mark) : Glyphs :=
  marks.filterMap fun
    | .char c quoted _ => some (c, quoted)
    | _ => none

/-- The home directory that a tilde and a name stand for. -/
def home? (name : String) : Run (Option String) := do
  if name.isEmpty then Run.value? "HOME"
  else return if name = "root" then some "/root" else none

/-- Characters in which a tilde in front stands for a home directory. -/
def tilde (split : Bool) (inAssignment : Bool) (s : String) : Run (List Mark) := do
  let rest := s.toList.drop 1
  let isEnd (c : Char) := c == '/' || inAssignment && c == ':'
  let name := rest.takeWhile (!isEnd ·)
  match s.toList with
  | '~' :: _ =>
    match ← home? (String.ofList name) with
    | some path =>
      return (path.toList.map fun c => .char c true false)
        ++ (rest.drop name.length).map fun c => .char c false split
    | none => return s.toList.map fun c => .char c false split
  | cs => return cs.map fun c => .char c false split

/-! ## Output of commands -/

/-- Run commands in a shell of their own, and give back what they print, without line ends
behind. -/
def output (interp : Interpreter) (body : Command) : Run String := do
  let pipe ← Run.addPipe
  let file ← Run.addFile { target := .pipe pipe, readable := true, writable := true }
  let ended ← Run.withDescriptor 1 (some file) (Run.spawn (interp (.child body false)))
  Run.onProcess fun p => { p with outputStatus := statusOf ended }
  let content := ((← Run.system).pipes.getD pipe {}).content
  let printed := (Raw.load content 0 content.size).toList.filter (· != '\x00')
  return String.ofList (printed.reverse.dropWhile (· == '\n')).reverse

/-! ## Parts -/

mutual

/-- The value of a parameter after what is done with it. -/
def used (interp : Interpreter) (manner : Manner) (name : String) (use : Use) (word : Word)
    (quoted : Bool) : Run (List Mark) := do
  let missing (orEmpty : Bool) (value : Option String) : Bool :=
    match value with
    | none => true
    | some s => orEmpty && s.isEmpty
  let unset : Run (List Mark) := do
    if (← Run.isSet 'u') && name != "@" && name != "*" then
      Run.fail (name ++ ": parameter not set")
    return []
  let wordManner : Manner := { manner with quoted, inWord := true }
  let plain (value : String) : Run (List Mark) := do
    if name == "@" && manner.full || name == "*" && manner.full && !quoted then
      return positional manner quoted (← Run.process).positional
    return ofValue manner quoted value
  if use == .unknown then Run.fail "Bad substitution"
  let value ← parameter? name
  match use with
  | .plain =>
    match value with
    | some s => plain s
    | none => unset
  | .length =>
    match value with
    | some s => return ofValue manner quoted (toString s.length)
    | none =>
      let _ ← unset
      return ofValue manner quoted "0"
  | .orElse orEmpty =>
    if missing orEmpty value then marks interp wordManner word
    else plain (value.getD "")
  | .instead orEmpty =>
    if missing orEmpty value then return [] else marks interp wordManner word
  | .assign orEmpty =>
    if missing orEmpty value then
      let text := textOf (← marks interp { full := false, inWord := true } word)
      if !isName name then Run.fail (name ++ ": bad variable name")
      Run.assign name text
      return ofValue manner quoted text
    else plain (value.getD "")
  | .must orEmpty =>
    if missing orEmpty value then
      if word.isEmpty then
        Run.fail (name ++ ": parameter not set" ++ if orEmpty then " or null" else "")
      let text := textOf (← marks interp { full := false, inWord := true } word)
      Run.fail (name ++ ": " ++ text)
    else plain (value.getD "")
  | .trim fromEnd longest =>
    match value with
    | none => unset
    | some s =>
      let pattern := glyphsOf (← marks interp { full := false, inWord := true } word)
      let cut := if fromEnd then Glob.dropEnd longest pattern s.toList
        else Glob.dropStart longest pattern s.toList
      return ofValue manner quoted (String.ofList cut)
  | .unknown => return []
termination_by (sizeOf word, 1)

/-- The marks of one part of a word. -/
def partMarks (interp : Interpreter) (manner : Manner) (part : Part) : Run (List Mark) := do
  match part with
  | .chars s quoted =>
    let quoted := quoted || manner.quoted
    if quoted then return .hold :: s.toList.map fun c => .char c true false
    return s.toList.map fun c => .char c false (manner.full && manner.inWord)
  | .parameter name use word quoted =>
    used interp manner name use word (quoted || manner.quoted)
  | .output body quoted =>
    return ofValue manner (quoted || manner.quoted) (← output interp body)
  | .arithmetic expression quoted =>
    let source := textOf (← marks interp { full := false } expression)
    let n ← Arithmetic.value source
    return ofValue manner (quoted || manner.quoted) (toString n)
termination_by (sizeOf part, 2)

/-- The marks of the parts of a word. -/
def marks (interp : Interpreter) (manner : Manner) (word : Word) : Run (List Mark) := do
  match word with
  | [] => return []
  | part :: rest =>
    let first ← partMarks interp manner part
    return first ++ (← marks interp manner rest)
termination_by (sizeOf word, 0)

end

/-- The marks of a word in which a tilde in front stands for a home directory. -/
def wordMarks (interp : Interpreter) (manner : Manner) (word : Word) : Run (List Mark) := do
  match word with
  | .chars s false :: rest =>
    if s.startsWith "~" && (s.contains '/' || rest.isEmpty) then
      return (← tilde false false s) ++ (← marks interp manner rest)
    marks interp manner word
  | _ => marks interp manner word

/-- The marks of the value of an assignment, in which a tilde can stand behind each colon. -/
def valueMarks (interp : Interpreter) (word : Word) : Run (List Mark) := do
  match word with
  | .chars s false :: rest =>
    let pieces ← (s.splitOn ":").mapM (tilde false true)
    return [Mark.char ':' false false].intercalate pieces ++ (← marks interp { full := false } rest)
  | _ => marks interp { full := false } word

/-! ## Fields -/

/-- Fields in the making: those that are complete, the last one first, the characters of the current
one from its end, whether that one exists, and whether blanks have just ended one. -/
structure Splitting where
  done : List Glyphs := []
  current : Glyphs := []
  exists_ : Bool := false
  afterBlank : Bool := false

namespace Splitting

/-- End the current field, if it exists. -/
def finish (s : Splitting) : Splitting :=
  if s.exists_ then
    { done := s.current.reverse :: s.done, afterBlank := false }
  else s

/-- Take one mark into account. -/
def step (separators : List Char) (s : Splitting) : Mark → Splitting
  | .hold => { s with exists_ := true, afterBlank := false }
  | .cut => { s.finish with afterBlank := false }
  | .char c quoted split =>
    if split && separators.contains c then
      if c == ' ' || c == '\t' || c == '\n' then
        if s.exists_ then { s.finish with afterBlank := true } else s
      else if s.exists_ then s.finish
      else if s.afterBlank then { s with afterBlank := false }
      else { s with done := [] :: s.done }
    else
      { s with current := (c, quoted) :: s.current, exists_ := true, afterBlank := false }

end Splitting

/-- The fields of marks. -/
def split (separators : List Char) (marks : List Mark) : List Glyphs :=
  (marks.foldl (Splitting.step separators) {}).finish.done.reverse

/-- The characters at which fields are split. -/
def separators : Run (List Char) := do
  match ← Run.lookVariable "IFS" with
  | some v => return (v.value.getD " \t\n").toList
  | none => return " \t\n".toList

/-! ## File names -/

/-- The parts of a pattern between slashes. -/
def components (gs : Glyphs) : List Glyphs :=
  (gs.splitBy fun a b => (a.1 == '/') == (b.1 == '/')).map fun part => part

/-- The paths that begin with a text and go on as the parts of a pattern say. -/
def matching (tree : Tree) (directory : String) : List Glyphs → String → List String
  | [], start => [start]
  | part :: rest, start =>
    if part.all (·.1 == '/') || !Glob.isPattern part then
      let next := start ++ String.ofList (part.map (·.1))
      if rest.isEmpty then
        if (tree.find? directory next).isSome then [next] else []
      else matching tree directory rest next
    else
      let place := if start.isEmpty then "." else start
      match tree.resolve directory place with
      | .error _ => []
      | .ok place =>
        let r := Glob.toRegex part
        let names := (tree.list place.path).filter fun name =>
          let chars := name.toList.toArray
          ((r.ends chars false ⟨0, []⟩).any fun s => s.place == chars.size) &&
            (!name.startsWith "." || part.head?.any (·.1 == '.'))
        names.flatMap fun name => matching tree directory rest (start ++ name)

/-- The names that a field stands for: itself, or the files that it matches as a pattern. -/
def names (gs : Glyphs) : Run (List String) := do
  let plain := String.ofList (gs.map (·.1))
  if !Glob.isPattern gs || (← Run.isSet 'f') then return [plain]
  let m ← get
  match matching m.system.tree m.process.directory (components gs) "" with
  | [] => return [plain]
  | found => return found

/-! ## Words -/

/-- The fields that words expand to. -/
def fields (interp : Interpreter) (words : List Word) : Run (List String) := do
  let mut all : List (List String) := []
  for word in words do
    let found ← wordMarks interp { full := true } word
    for gs in split (← separators) found do
      all := (← names gs) :: all
  return all.reverse.flatten

/-- The characters that a word expands to where it stays one field. -/
def glyphs (interp : Interpreter) (word : Word) : Run Glyphs := do
  return glyphsOf (← wordMarks interp { full := false } word)

/-- The text that a word expands to where it stays one field. -/
def text (interp : Interpreter) (word : Word) : Run String := do
  return textOf (← wordMarks interp { full := false } word)

/-- The text that the value of an assignment expands to. -/
def value (interp : Interpreter) (word : Word) : Run String := do
  return textOf (← valueMarks interp word)

end Expand

end MonitorKeys.Shell
