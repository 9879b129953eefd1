import MonitorKeys.Shell.Arithmetic

/-!
# Tests

The builtin `test`, which is also called `[`: conditions on texts, numbers and files, which can be
negated, joined, and put in parentheses.  A word that looks like an operator is one, unless its
neighbours say otherwise.
-/

namespace MonitorKeys.Shell.Test

/-- What kind of word an operator is. -/
inductive Kind where
  | unary
  | binary
  | negation
  | conjunction
  | disjunction
  | opening
  | closing
  deriving DecidableEq, Repr

/-- The kind of a word that is an operator. -/
def kind? (word : String) : Option Kind :=
  if ["-r", "-w", "-x", "-e", "-f", "-d", "-c", "-b", "-p", "-u", "-g", "-k", "-s", "-t", "-z",
      "-n", "-h", "-O", "-G", "-L", "-S"].contains word then some .unary
  else if ["=", "!=", "<", ">", "-eq", "-ne", "-ge", "-gt", "-le", "-lt", "-nt", "-ot",
      "-ef"].contains word then some .binary
  else
    [("!", Kind.negation), ("-a", .conjunction), ("-o", .disjunction), ("(", .opening),
     (")", .closing)].lookup word

/-- The words of a test, and how a place in them is read. -/
structure Words where
  all : Array String

namespace Words

/-- Whether the word at a place stands where only an operand can. -/
def isOperand (w : Words) (i : Nat) : Bool :=
  match w.all[i + 1]?, w.all[i + 2]? with
  | none, _ => true
  | some _, none => false
  | some next, some _ => kind? next == some .binary

/-- The kind of the operator at a place, where there is one. -/
def operator? (w : Words) (i : Nat) : Option Kind :=
  match w.all[i]? with
  | none => none
  | some word =>
    match kind? word with
    | some .unary => if w.isOperand i then none else some .unary
    | some .opening => if w.all.size ≤ i + 1 then none else some .opening
    | k => k

end Words

/-- A number in a test. -/
def number (s : String) : Run Int :=
  match Arithmetic.number? true s with
  | some n => return n
  | none => Run.fail ("Illegal number: " ++ s)

/-- Whether a node has a property that does not depend on the way to it. -/
def nodeHas (operator : String) (node : Node) : Bool :=
  match operator, node with
  | "-e", _ | "-r", _ | "-w", _ | "-O", _ | "-G", _ => true
  | "-f", .file _ _ | "-f", .program _ => true
  | "-d", .directory _ => true
  | "-h", .link _ | "-L", .link _ => true
  | "-c", .device (.descriptor _) => false
  | "-c", .device _ => true
  | "-s", .file content _ => content.size != 0
  | "-s", .directory _ | "-s", .program _ => true
  | "-x", .directory _ | "-x", .program _ => true
  | "-x", .file _ mode => mode &&& 0o111 != 0
  | _, _ => false

/-- Whether a file has a property. -/
def fileHas (operator path : String) : Run Bool := do
  let last := operator != "-h" && operator != "-L"
  match ← Run.resolve path last with
  | .error _ => return false
  | .ok place =>
    match place.number.bind (← Run.system).tree.node? with
    | none => return false
    | some (.device (.descriptor n)) =>
      match operator, ← Run.openFile? n with
      | "-p", some (_, { target := .pipe _, .. }) => return true
      | _, some (_, { target := .node k _, .. }) =>
        match (← Run.system).tree.node? k with
        | some node => return nodeHas operator node
        | none => return false
      | "-p", _ | "-f", _ | "-d", _ | "-s", _ | "-c", _ | "-x", _ => return false
      | _, found => return found.isSome
    | some node => return nodeHas operator node

/-- The value of a condition on one operand. -/
def unary (operator operand : String) : Run Bool := do
  match operator with
  | "-z" => return operand.isEmpty
  | "-n" => return !operand.isEmpty
  | "-t" =>
    let _ ← number operand
    return false
  | _ => fileHas operator operand

/-- The value of a condition on two operands. -/
def binary (left operator right : String) : Run Bool := do
  let compare (p : Int → Int → Bool) : Run Bool := do
    let a ← number left
    return p a (← number right)
  match operator with
  | "=" => return left == right
  | "!=" => return left != right
  | "<" => return left < right
  | ">" => return right < left
  | "-eq" => compare (· == ·)
  | "-ne" => compare (· != ·)
  | "-ge" => compare (fun a b => b ≤ a)
  | "-gt" => compare (fun a b => b < a)
  | "-le" => compare (fun a b => a ≤ b)
  | "-lt" => compare (fun a b => a < b)
  | "-ef" =>
    match ← Run.resolve left, ← Run.resolve right with
    | .ok a, .ok b => return a.number.isSome && a.number == b.number
    | _, _ => return false
  | "-nt" => return (← Run.node? left).isSome && (← Run.node? right).isNone
  | _ => return (← Run.node? right).isSome && (← Run.node? left).isNone

/-- A condition that is read from a place on: its value, and the place of its last word. -/
abbrev Condition := Nat → Run (Bool × Nat)

/-- A condition without operators between conditions; `whole` reads what stands in parentheses. -/
def primary (w : Words) (whole : Condition) (i : Nat) : Run (Bool × Nat) := do
  let word := w.all.getD i ""
  if w.all.size ≤ i then return (false, i)
  match w.operator? i with
  | some .opening =>
    if w.operator? (i + 1) == some .closing then return (false, i + 1)
    let (value, j) ← whole (i + 1)
    if w.operator? (j + 1) != some .closing then Run.fail "closing paren expected"
    return (value, j + 1)
  | some .unary =>
    match w.all[i + 1]? with
    | none => Run.fail (word ++ ": argument expected")
    | some operand => return (← unary word operand, i + 1)
  | _ =>
    if w.operator? (i + 1) == some .binary then
      let operator := w.all.getD (i + 1) ""
      match w.all[i + 2]? with
      | none => Run.fail (operator ++ ": argument expected")
      | some right => return (← binary word operator right, i + 2)
    return (!word.isEmpty, i)

/-- A condition with exclamation marks in front. -/
def negated (w : Words) (whole : Condition) : Nat → Condition
  | 0, i => primary w whole i
  | n + 1, i => do
    if w.operator? i == some .negation then
      if w.all.size ≤ i + 1 then
        return (true, i)
      let (value, j) ← negated w whole n (i + 1)
      return (!value, j)
    primary w whole i

/-- Conditions that all have to hold, given the value of those before. -/
def conjunction (w : Words) (one : Condition) : Nat → Bool → Condition
  | 0, soFar, i => return (soFar, i)
  | n + 1, soFar, i => do
    let (value, j) ← one i
    let soFar := soFar && value
    if w.operator? (j + 1) == some .conjunction then conjunction w one n soFar (j + 2)
    else return (soFar, j)

/-- Conditions one of which has to hold, given the value of those before. -/
def disjunction (w : Words) (one : Condition) : Nat → Bool → Condition
  | 0, soFar, i => return (soFar, i)
  | n + 1, soFar, i => do
    let (value, j) ← one i
    let soFar := soFar || value
    if w.operator? (j + 1) == some .disjunction then disjunction w one n soFar (j + 2)
    else return (soFar, j)

/-- A whole condition.  The first argument bounds the depth of parentheses. -/
def condition (w : Words) : Nat → Condition
  | 0, i => return (false, i)
  | n + 1, i =>
    let bound := w.all.size + 1
    disjunction w (conjunction w (negated w (condition w n) bound) bound true) bound false i

/-- The value of a condition of all words, which must not be followed by more. -/
def evaluate (words : List String) : Run Bool := do
  let w : Words := ⟨words.toArray⟩
  let (value, last) ←
    match words with
    | [a, op, b] =>
      if kind? op == some .binary then pure (← binary a op b, 2)
      else condition w (w.all.size + 1) 0
    | _ => condition w (w.all.size + 1) 0
  match w.all[last]?, w.all[last + 1]? with
  | some word, some _ => Run.fail (word ++ ": unexpected operator")
  | _, _ => return value

/-- Whether a test succeeds; words that make sense by themselves are looked at first. -/
def holds : Nat → List String → Run Bool
  | _, [] => return false
  | 0, words => evaluate words
  | n + 1, words => do
    let isBinary :=
      match words with
      | [_, op, _] => kind? op == some .binary
      | _ => false
    if isBinary || (words.length != 3 && words.length != 4) then evaluate words
    else if words.head? == some "(" && words.getLast? == some ")" then
      evaluate (words.drop 1).dropLast
    else if words.head? == some "!" then return !(← holds n words.tail)
    else evaluate words

/-- The builtin, called by one of its two names. -/
def run (name : String) (arguments : List String) : Run Unit := do
  if name == "[" && !(arguments.getLast?.any fun s => s.startsWith "]") then Run.fail "missing ]"
  let words := if name == "[" then arguments.dropLast else arguments
  Run.setStatus (if ← holds 2 words then 0 else 1)

end MonitorKeys.Shell.Test
