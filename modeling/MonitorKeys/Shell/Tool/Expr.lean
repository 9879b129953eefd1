import MonitorKeys.Shell.Pattern
import MonitorKeys.Shell.Tool

/-!
# Expressions in arguments

`expr` takes each argument as an operand or an operator of one expression, and prints its value.
Operators bind as `Expr.either` and the readers below it say, from the loosest to the tightest; a
part that does not count is read, but gives no errors.
-/

namespace MonitorKeys.Shell.Tool.Expr

/-- A value: a number or a text. -/
inductive Value where
  | int (n : Int)
  | text (s : String)

namespace Value

/-- How a value is printed. -/
def shown : Value → String
  | int n => toString n
  | text s => s

/-- Whether a value counts as false. -/
def isNull : Value → Bool
  | int n => n == 0
  | text s =>
    match s.toList with
    | [] => true
    | '-' :: cs => !cs.isEmpty && cs.all (· == '0')
    | cs => cs.all (· == '0')

/-- The number that a value is or writes. -/
def int? : Value → Option Int
  | int n => some n
  | text s => if s.startsWith "+" then none else Raw.int? s

end Value

/-- The arguments left, and the one before them. -/
structure Words where
  rest : List String
  before : String

/-- A reader of a part of the expression. -/
abbrev Read := EStateM String Words

/-- Whether a word comes next, which is passed then. -/
def accept (word : String) : Read Bool :=
  modifyGet fun w =>
    match w.rest with
    | first :: rest => if first == word then (true, ⟨rest, first⟩) else (false, w)
    | [] => (false, w)

/-- Say that an argument is missing, if none is left. -/
def need : Read Unit := do
  let w ← get
  if w.rest.isEmpty then throw ("syntax error: missing argument after " ++ quote w.before)

/-- The next word. -/
def next : Read String := do
  need
  modifyGet fun w => (w.rest.headD "", ⟨w.rest.tail, w.rest.headD ""⟩)

/-- The part of a text at its start that matches a pattern: what its first group matches, or how
long it is. -/
def matched (counts : Bool) (left right : Value) : Read Value := do
  if !counts then return .int 0
  match Pattern.read { emptyRanges := true } right.shown with
  | .error e => throw e.text
  | .ok found =>
    let text := left.shown.toList.toArray
    match found.regex.matchAt? text 0 with
    | some m =>
      if found.groups == 0 then return .int m.stop
      return .text (String.ofList ((m.text? text 1).getD []))
    | none => return if found.groups == 0 then .int 0 else .text ""

/-- A part of a text from a place on, which is counted from one. -/
def part (text place length : Value) : Value :=
  match place.int?, length.int? with
  | some p, some n =>
    if p ≤ 0 || n ≤ 0 then .text ""
    else .text ((text.shown.drop (p.toNat - 1)).take n.toNat).toString
  | _, _ => .text ""

/-- An operand: a word, or an expression in parentheses. -/
def operand (inner : Read Value) : Read Value := do
  need
  if ← accept "(" then
    let v ← inner
    let w ← get
    match w.rest with
    | [] => throw ("syntax error: expecting ')' after " ++ quote w.before)
    | word :: _ =>
      unless ← accept ")" do throw ("syntax error: expecting ')' instead of " ++ quote word)
      return v
  if ← accept ")" then throw "syntax error: unexpected ')'"
  return .text (← next)

/-- An operand, or a function with its operands.  The first argument bounds the depth. -/
def function (counts : Bool) (inner : Read Value) : Nat → Read Value
  | 0 => operand inner
  | n + 1 => do
    if ← accept "+" then return .text (← next)
    else if ← accept "length" then
      return .int (← function counts inner n).shown.length
    else if ← accept "match" then
      let a ← function counts inner n
      matched counts a (← function counts inner n)
    else if ← accept "index" then
      let a ← function counts inner n
      let set := (← function counts inner n).shown.toList
      return .int ((a.shown.toList.findIdx? set.contains).elim 0 fun i => i + 1)
    else if ← accept "substr" then
      let a ← function counts inner n
      let p ← function counts inner n
      return part a p (← function counts inner n)
    else operand inner

/-- Operands with operators of one kind between them, which are taken from the left.  The first
argument bounds their number. -/
def chain (operators : List String) (apply : String → Value → Value → Read Value)
    (one : Read Value) : Nat → Value → Read Value
  | 0, v => return v
  | n + 1, v => do
    match (← get).rest with
    | word :: _ =>
      if operators.contains word then
        let _ ← next
        let right ← one
        chain operators apply one n (← apply word v right)
      else return v
    | [] => return v

/-- A number from numbers. -/
def calculated (counts : Bool) (operator : String) (a b : Value) : Read Value := do
  if !counts then return .int 0
  match a.int?, b.int? with
  | some x, some y =>
    match operator with
    | "+" => return .int (x + y)
    | "-" => return .int (x - y)
    | "*" => return .int (x * y)
    | _ =>
      if y == 0 then throw "division by zero"
      return .int (if operator == "/" then x.tdiv y else x.tmod y)
  | _, _ => throw "non-integer argument"

/-- The value of a comparison: of numbers where both sides are some, and of texts otherwise. -/
def compared (operator : String) (a b : Value) : Value :=
  let order : Ordering :=
    match a.int?, b.int? with
    | some x, some y => compare x y
    | _, _ => compare a.shown b.shown
  let holds : Bool :=
    match operator with
    | "<" => order == .lt
    | "<=" => order != .gt
    | ">" => order == .gt
    | ">=" => order != .lt
    | "!=" => order != .eq
    | _ => order == .eq
  .int (if holds then 1 else 0)

/-- Comparisons and what binds tighter. -/
def comparison (counts : Bool) (inner : Read Value) (bound : Nat) : Read Value := do
  let colon : Read Value := do
    let left ← function counts inner bound
    chain [":"] (fun _ a b => matched counts a b) (function counts inner bound) bound left
  let product : Read Value := do
    chain ["*", "/", "%"] (calculated counts) colon bound (← colon)
  let sum : Read Value := do
    chain ["+", "-"] (calculated counts) product bound (← product)
  chain ["<", "<=", "=", "==", "!=", ">=", ">"] (fun op a b => return compared op a b) sum bound
    (← sum)

/-- Further expressions after `&`; what follows a false one does not count. -/
def bothFrom (counts : Bool) (inner : Bool → Read Value) (bound : Nat) : Nat → Value → Read Value
  | 0, v => return v
  | n + 1, v => do
    if ← accept "&" then
      let right ← comparison (counts && !v.isNull) (inner (counts && !v.isNull)) bound
      bothFrom counts inner bound n (if v.isNull || right.isNull then .int 0 else v)
    else return v

/-- Further expressions after `|`; what follows a true one does not count. -/
def eitherFrom (counts : Bool) (one : Bool → Read Value) : Nat → Value → Read Value
  | 0, v => return v
  | n + 1, v => do
    if ← accept "|" then
      let right ← one (counts && v.isNull)
      let v := if v.isNull then (if right.isNull then .int 0 else right) else v
      eitherFrom counts one n v
    else return v

/-- An expression.  The first argument bounds the depth of parentheses. -/
def either (counts : Bool) : Nat → Read Value
  | 0 => throw "syntax error"
  | n + 1 => do
    let bound := (← get).rest.length + 1
    let both (counts : Bool) : Read Value := do
      let first ← comparison counts (either counts n) bound
      bothFrom counts (fun counts => either counts n) bound bound first
    eitherFrom counts both bound (← both counts)

/-- `expr`. -/
def expr : Tool := fun _ words => do
  let arguments := if words.tail.head? == some "--" then words.tail.tail else words.tail
  if arguments.isEmpty then
    complain "missing operand"
    Run.warn (← tryHelp)
    leave 2
  let whole : Read Value := do
    let v ← either true (arguments.length + 1)
    match (← get).rest with
    | [] => return v
    | word :: _ => throw ("syntax error: unexpected argument " ++ quote word)
  match whole.run ⟨arguments, ""⟩ with
  | .ok v _ =>
    print (v.shown ++ "\n") 3
    Run.setStatus (if v.isNull then 1 else 0)
  | .error text _ => die text 2

end MonitorKeys.Shell.Tool.Expr
