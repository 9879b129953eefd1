import MonitorKeys.Shell.Builtin.Options
import MonitorKeys.Shell.Lookup

/-!
# Builtins for the surroundings of a process

`cd` and `pwd` for the current directory, `umask` for the modes of new files, `ulimit`, and `hash`
for the programs whose places are kept in mind.
-/

namespace MonitorKeys.Shell.Builtin

/-! ## The current directory -/

/-- An absolute path with `..` taken by its text. -/
def normal (path : String) : String :=
  Tree.absolute ((Tree.parts path).foldl
    (fun soFar part => if part == ".." then soFar.dropLast else soFar ++ [part]) [])

/-- The directory that a path below the current one, or one of those of the variable `CDPATH`, leads
to, and whether it is one of those. -/
def directoryOf (path : String) : Run (String × Bool) := do
  let here := (← Run.process).directory
  let below (directory : String) : String :=
    normal (if directory.startsWith "/" then directory else here ++ "/" ++ directory)
  let isPlain := (["/", "./", "../"].any fun front => path.startsWith front) || path == "." || path == ".."
  if isPlain then return (below path, false)
  let roots := ((← Run.value? "CDPATH").getD "").splitOn ":"
  for root in roots do
    let place := below (Lookup.joined root path)
    match ← Run.node? place with
    | some (.directory _) => return (place, !root.isEmpty)
    | _ => pure ()
  return (below path, false)

/-- `cd`. -/
def changeDirectory : Builtin := fun arguments => do
  let (given, words) ← options "LP" arguments
  let (wanted, shows) ←
    match words.head? with
    | none => pure ((← Run.value? "HOME").getD "", false)
    | some "-" => pure ((← Run.value? "OLDPWD").getD "", true)
    | some word => pure (word, false)
  let (place, listed) ← directoryOf wanted
  let reached ← Run.resolve (if wanted.startsWith "/" then wanted else place)
  let node := match reached with
    | .ok found => found.number
    | .error _ => none
  match node.bind (← Run.system).tree.node?, reached with
  | some (.directory _), .ok found =>
    let directory := if given.getLast?.map (·.1) == some 'P' then found.path else place
    Run.assign "OLDPWD" (← Run.process).directory
    Run.onProcess fun p => { p with directory }
    Run.assign "PWD" directory
    return if shows || listed then directory ++ "\n" else ""
  | _, _ => Run.fail ("can't cd to " ++ wanted)

/-- `pwd`. -/
def printDirectory : Builtin := fun arguments => do
  let (found, _) ← options "LP" arguments
  let directory := (← Run.process).directory
  if found.getLast?.map (·.1) == some 'P' then
    match ← Run.resolve directory with
    | .ok place => return place.path ++ "\n"
    | .error _ => return directory ++ "\n"
  return directory ++ "\n"

/-! ## Modes -/

/-- The text of the permissions that three bits give. -/
def permissions (bits : Nat) : String :=
  String.ofList ([('r', 4), ('w', 2), ('x', 1)].filterMap fun (c, bit) =>
    if bits &&& bit != 0 then some c else none)

/-- The bits of modes that letters for users mean. -/
def usersMask (cs : List Char) : Nat :=
  if cs.isEmpty || cs.contains 'a' then 0o777
  else [('u', 0o700), ('g', 0o070), ('o', 0o007)].foldl
    (fun mask (c, bits) => if cs.contains c then mask ||| bits else mask) 0

/-- The bits that letters for permissions mean, for all users alike; `x` stands for itself also as
`X` where the file can be executed. -/
def permissionBits (mode : Nat) (cs : List Char) : Nat :=
  cs.foldl
    (fun bits c =>
      match c with
      | 'r' => bits ||| 0o444
      | 'w' => bits ||| 0o222
      | 'x' => bits ||| 0o111
      | 'X' => if mode &&& 0o40111 != 0 then bits ||| 0o111 else bits
      | 'u' => bits ||| (mode / 64 % 8 * 0o111)
      | 'g' => bits ||| (mode / 8 % 8 * 0o111)
      | 'o' => bits ||| (mode % 8 * 0o111)
      | _ => bits)
    0

/-- The actions of one clause, which follow the letters for users. -/
def clauseActions (users : List Char) : Nat → Nat → List Char → Option Nat
  | 0, mode, _ => some mode
  | _, mode, [] => some mode
  | n + 1, mode, op :: cs =>
    let letters := cs.takeWhile "rwxXstugo".toList.contains
    let mask := usersMask users
    let bits := permissionBits mode letters &&& mask
    let rest := cs.drop letters.length
    match op with
    | '+' => clauseActions users n (mode ||| bits) rest
    | '-' => clauseActions users n (mode - (mode &&& bits)) rest
    | '=' => clauseActions users n (mode - (mode &&& mask) + bits) rest
    | _ => none

/-- Whether a clause says what to do, and not only for whom. -/
def isComplete (clause : String) : Bool :=
  clause.toList.any "+-=".toList.contains

/-- The mode that clauses make of another one.  Only the last clause may be without an action. -/
def symbolicMode? (mode : Nat) (text : String) : Option Nat := do
  let clauses := text.splitOn ","
  guard (clauses.dropLast.all isComplete)
  clauses.foldlM
    (fun mode clause =>
      let cs := clause.toList
      let users := cs.takeWhile "ugoa".toList.contains
      let rest := cs.drop users.length
      clauseActions users rest.length mode rest)
    mode

/-- The mode that a text writes in digits or clauses, given the one before. -/
def mode? (mode : Nat) (text : String) : Option Nat :=
  match Raw.digits? 8 text.toList with
  | some n => if n ≤ 0o7777 then some n else none
  | none => if (text.splitOn ",").all isComplete then symbolicMode? mode text else none

/-- `umask`. -/
def umask : Builtin := fun arguments => do
  let (found, words) ← options "S" arguments
  let mask := (← Run.process).mask
  match words.head? with
  | none =>
    if found.isEmpty then return Raw.padLeft 4 '0' (Raw.inBase 8 mask) ++ "\n"
    let allowed := 0o777 - (mask &&& 0o777)
    return "u=" ++ permissions (allowed / 64) ++ ",g=" ++ permissions (allowed / 8 % 8) ++ ",o="
      ++ permissions (allowed % 8) ++ "\n"
  | some word =>
    if word.toList.head?.any Char.isDigit then
      match Raw.digits? 8 word.toList with
      | some n => Run.onProcess fun p => { p with mask := n % 0o1000 }
      | none => Run.fail ("Illegal number: " ++ word)
    else
      match symbolicMode? (0o777 - (mask &&& 0o777)) word with
      | some allowed => Run.onProcess fun p => { p with mask := 0o777 - (allowed &&& 0o777) }
      | none => Run.fail ("Illegal mode: " ++ word)
    return ""

/-! ## Limits -/

/-- The limits of a process by their letters. -/
def limits : List (Char × String × String) :=
  [('t', "time(seconds)", "unlimited"), ('f', "file(blocks)", "unlimited"),
   ('d', "data(kbytes)", "unlimited"), ('s', "stack(kbytes)", "8192"),
   ('c', "coredump(blocks)", "0"), ('m', "memory(kbytes)", "unlimited"),
   ('l', "locked memory(kbytes)", "8192"), ('p', "process", "unlimited"),
   ('n', "nofiles", "20000"), ('v', "vmemory(kbytes)", "unlimited"), ('w', "locks", "unlimited"),
   ('r', "rtprio", "0")]

/-- `ulimit`, which shows limits; new ones have no effect. -/
def ulimit : Builtin := fun arguments => do
  let (found, words) ← options "HSatfdscmlpnvwr" arguments
  let letters := (found.map (·.1)).filter fun c => c != 'H' && c != 'S'
  if letters.contains 'a' then
    return String.join (limits.map fun (_, name, value) =>
      Raw.padRight 21 ' ' name ++ value ++ "\n")
  match words, limits.lookup (letters.getLast?.getD 'f') with
  | [], some (_, value) => return value ++ "\n"
  | [], none => return ""
  | [word], _ =>
    if word != "unlimited" && (Raw.nat? word).isNone then Run.fail "bad number"
    return ""
  | _, _ => Run.fail "too many arguments"

/-! ## Programs -/

/-- `hash`. -/
def hash : Builtin := fun arguments => do
  let (found, names) ← options "r" arguments
  if !found.isEmpty then
    Run.onProcess fun p => { p with tracked := [] }
    return ""
  if names.isEmpty then
    let mut out := ""
    for name in (← Run.process).tracked do
      match ← Lookup.program name with
      | .ok path => out := out ++ path ++ "\n"
      | .error _ => pure ()
    return out
  for name in names do
    match ← Lookup.meaning name with
    | .nothing denied =>
      Run.complain (name ++ ": " ++ (← Lookup.failureText denied))
      Run.setStatus 1
    | .program _ =>
      Run.onProcess fun p =>
        { p with tracked := name :: p.tracked.filter (· != name) }
    | _ => pure ()
  return ""

end MonitorKeys.Shell.Builtin
