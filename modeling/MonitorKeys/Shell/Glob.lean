import MonitorKeys.Regex

/-!
# File name patterns

A pattern of the shell is a text in which `*`, `?` and brackets stand for other characters, unless
they are quoted.  It is a `Glyphs`, a list of characters that know whether they are quoted, and
`Glob.toRegex` gives the expression for it.
-/

namespace MonitorKeys.Shell

/-- Characters, each with whether it is quoted. -/
abbrev Glyphs := List (Char × Bool)

namespace Glob

/-- Glyphs that are all quoted, or none. -/
def glyphs (quoted : Bool) (s : String) : Glyphs :=
  s.toList.map (·, quoted)

/-- The class by name that a bracket and a colon begin, and the glyphs after it. -/
def namedClass? (gs : Glyphs) : Option (CharSet × Glyphs) :=
  match gs with
  | (':', _) :: rest =>
    let name := rest.takeWhile (·.1 != ':')
    match rest.drop name.length with
    | (':', _) :: (']', _) :: after =>
      (CharSet.ofName? (String.ofList (name.map (·.1)))).map (·, after)
    | _ => none
  | _ => none

/-- The rest of the members of a bracket, given those so far and whether there is one, and the
glyphs after the bracket.  The first argument bounds the number of steps. -/
def members? : Nat → CharSet → Bool → Glyphs → Option (CharSet × Glyphs)
  | 0, _, _, _ => none
  | _, _, _, [] => none
  | n + 1, soFar, started, (c, quoted) :: rest =>
    if c == ']' && !quoted && started then some (soFar, rest)
    else
      match (if c == '[' && !quoted then namedClass? rest else none), rest with
      | some (set, after), _ => members? n (.union soFar set) true after
      | none, ('-', false) :: (d, dQuoted) :: after =>
        if d == ']' && !dQuoted then members? n (.union soFar (.single c)) true rest
        else members? n (.union soFar (.ranges [(c, d)])) true after
      | none, _ => members? n (.union soFar (.single c)) true rest

/-- The set that a bracket stands for, and the glyphs after it. -/
def bracket? (gs : Glyphs) : Option (CharSet × Glyphs) :=
  match gs with
  | ('!', false) :: rest =>
    (members? (rest.length + 1) .none false rest).map fun (set, after) => (.complement set, after)
  | _ => members? (gs.length + 1) .none false gs

/-- The expressions for the glyphs one by one; `?` and brackets stand for one character, and `*`
for any number of them.  The first argument bounds the number of steps. -/
def parts (one : CharSet) : Nat → Glyphs → List Regex
  | 0, _ => []
  | _, [] => []
  | n + 1, (c, quoted) :: rest =>
    if quoted then .one (.single c) :: parts one n rest
    else if c == '*' then .times (.one one) 0 none :: parts one n rest
    else if c == '?' then .one one :: parts one n rest
    else
      match if c == '[' then bracket? rest else none with
      | some (set, after) => .one (.inter set one) :: parts one n after
      | none => .one (.single c) :: parts one n rest

/-- The expression for a pattern, in which no character outside of `one` is matched by others. -/
def toRegexWithin (one : CharSet) (gs : Glyphs) : Regex :=
  (parts one gs.length gs).foldr .seq .empty

/-- The expression for a pattern. -/
def toRegex (gs : Glyphs) : Regex :=
  toRegexWithin .all gs

/-- Whether a pattern matches a whole text. -/
def fits (gs : Glyphs) (text : List Char) : Bool :=
  ((toRegex gs).ends text.toArray false ⟨0, []⟩).any fun s => s.place == text.length

/-- Whether unquoted glyphs give a text another meaning than its own. -/
def isPattern (gs : Glyphs) : Bool :=
  gs.any fun (c, quoted) => !quoted && (c == '*' || c == '?' || c == '[')

/-- A text without the shortest or longest beginning that a pattern matches. -/
def dropStart (longest : Bool) (gs : Glyphs) (text : List Char) : List Char :=
  let ends := ((toRegex gs).ends text.toArray false ⟨0, []⟩).map (·.place)
  match if longest then ends.head? else ends.getLast? with
  | some n => text.drop n
  | none => text

/-- A text without the shortest or longest end that a pattern matches. -/
def dropEnd (longest : Bool) (gs : Glyphs) (text : List Char) : List Char :=
  let r := toRegex gs
  let chars := text.toArray
  let reaches := fun start => (r.ends chars false ⟨start, []⟩).any fun s => s.place == chars.size
  let starts := List.range (chars.size + 1)
  match if longest then starts.find? reaches else starts.reverse.find? reaches with
  | some n => text.take n
  | none => text

end Glob

end MonitorKeys.Shell
