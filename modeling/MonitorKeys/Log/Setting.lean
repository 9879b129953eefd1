import MonitorKeys.Log
import MonitorKeys.Log.Pattern

/-!
# How log settings are written

A setting is a list of directives, each of which allows the records of some targets up to a level.
For a target the directive with the longest matching name decides, and a target that no directive
matches is not logged at all.

`Log.Setting.read` reads directives separated by commas:

* `level` allows every target up to that level;
* `name=level` allows the targets whose name begins with `name`;
* `name` and `name=` allow all levels there.

A pattern after a slash asks for records with a match of it.  A part that cannot be read is left out
with a warning, and no directive at all allows errors only.
-/

namespace MonitorKeys.Log

/-- A threshold for the targets whose name begins with `scope`, or for all of them. -/
structure Directive where
  scope : Option String
  threshold : Threshold
  deriving DecidableEq, Repr

/-- What a setting says about records. -/
structure Setting where
  directives : List Directive
  /-- A pattern with a match in the text of every logged record. -/
  pattern : Option Regex := none
  deriving DecidableEq, Repr

namespace Directive

/-- The number of bytes of the name that a directive asks for. -/
def weight (d : Directive) : Nat :=
  (d.scope.getD "").utf8ByteSize

/-- Whether a directive speaks about a target. -/
def covers (d : Directive) (target : Target) : Bool :=
  (d.scope.getD "").toList.isPrefixOf target.name.toList

/-- Add a directive; it takes the place of an earlier one with the same scope. -/
def insert (ds : List Directive) (d : Directive) : List Directive :=
  if ds.any (·.scope = d.scope) then ds.map fun e => if e.scope = d.scope then d else e
  else ds ++ [d]

/-- Of the directive found so far and another one, the one with the longer name, or else the other
one. -/
def heavier : Option Directive → Directive → Directive
  | some best, d => if best.weight ≤ d.weight then d else best
  | none, d => d

/-- The directive that decides about a target: of those that cover it the longest, and of these
the last. -/
def deciding? (ds : List Directive) (target : Target) : Option Directive :=
  (ds.filter (·.covers target)).foldl (fun best d => some (heavier best d)) none

end Directive

namespace Setting

/-- The threshold for a target. -/
def threshold (setting : Setting) (target : Target) : Threshold :=
  match Directive.deciding? setting.directives target with
  | some d => d.threshold
  | none => none

/-- The filter of a setting. -/
def filter (setting : Setting) : Filter where
  admits record :=
    (setting.threshold record.target).allows record.level
      && setting.pattern.all fun r => r.isIn record.text.toList

/-! ## Reading a setting -/

/-- A text without the blanks at its ends. -/
def trimmed (s : String) : String :=
  String.ofList (Text.trim s.toList)

/-- The threshold that a word names, in upper or lower case. -/
def readThreshold? (word : String) : Option Threshold :=
  let upper := word.map Char.toUpper
  if upper = "OFF" then some none
  else ([Level.error, .warn, .info, .debug, .trace].find? (·.name = upper)).map some

/-- One part of a setting, or the text that the warning about it quotes. -/
def readDirective (part : String) : Except String Directive :=
  match part.splitOn "=" with
  | [word] =>
    match readThreshold? word with
    | some threshold => .ok ⟨none, threshold⟩
    | none => .ok ⟨some word, some .trace⟩
  | [scope, word] =>
    let word := trimmed word
    if word = "" then .ok ⟨some scope, some .trace⟩
    else
      match readThreshold? word with
      | some threshold => .ok ⟨some scope, threshold⟩
      | none => .error word
  | _ => .error part

/-- The line that warns about a part of a setting. -/
def warning (quoted reason : String) : String :=
  "warning: invalid logging spec '" ++ quoted ++ "', ignoring it" ++ reason ++ "\n"

/-- The directives of a text and the warnings about its parts. -/
def readDirectives (text : String) : List Directive × List String :=
  let parts := ((text.splitOn ",").map trimmed).filter (· ≠ "")
  parts.foldl
    (fun (ds, warnings) part =>
      match readDirective part with
      | .ok d => (Directive.insert ds d, warnings)
      | .error quoted => (ds, warnings ++ [warning quoted ""]))
    ([], [])

/-- The setting with the given directives; none at all allows errors only. -/
def ofDirectives (ds : List Directive) (pattern : Option Regex) : Setting :=
  if ds = [] then ⟨[⟨none, some .error⟩], pattern⟩ else ⟨ds, pattern⟩

/-- The pattern that a text writes, and the warning about it. -/
def readPattern (text : String) : Option Regex × List String :=
  match Pattern.read text with
  | .ok r => (some r, [])
  | .error fault => (none, ["warning: invalid regex filter - " ++ fault.report text ++ "\n"])

/-- The setting that a text describes, and the warnings about it. -/
def parse (spec : String) : Setting × List String :=
  match spec.splitOn "/" with
  | [directives] =>
    let (ds, warnings) := readDirectives directives
    (ofDirectives ds none, warnings)
  | [directives, text] =>
    let (ds, warnings) := readDirectives directives
    let (pattern, more) := readPattern text
    (ofDirectives ds pattern, warnings ++ more)
  | _ => (ofDirectives [] none, [warning spec " (too many '/'s)"])

/-- The filter that a text describes, and the warnings about it. -/
def read (spec : String) : Filter × List String :=
  let (setting, warnings) := parse spec
  (setting.filter, warnings)

end Setting

end MonitorKeys.Log
