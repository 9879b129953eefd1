import MonitorKeys.Shell.Machine
import MonitorKeys.Shell.Source

/-!
# Arithmetic of the shell

Arithmetic expressions have the operators of the C language on whole numbers of 64 bits.  A variable
stands for the number that its value writes, and can be assigned to.

`Arithmetic.read` reads an expression, and `Arithmetic.value` works it out.
-/

namespace MonitorKeys.Shell.Arithmetic

/-- An operator between two numbers. -/
inductive Operator where
  | times | over | rest | plus | minus | left | right | less | lessEq | greater | greaterEq
  | equal | unequal | bitAnd | bitXor | bitOr
  deriving DecidableEq, Repr

/-- An expression. -/
inductive Expr where
  | number (n : Int)
  | variable (name : String)
  | negative (e : Expr)
  | not (e : Expr)
  | inverted (e : Expr)
  | binary (op : Operator) (a b : Expr)
  | both (a b : Expr)
  | either (a b : Expr)
  | choice (condition yes no : Expr)
  /-- A variable gets a value, or its old value changed by another one. -/
  | assign (name : String) (op : Option Operator) (e : Expr)
  deriving Repr

/-! ## Numbers -/

/-- The greatest number. -/
def greatest : Int := 2 ^ 63 - 1

/-- The number of 64 bits that a number wraps around to. -/
def wrap (n : Int) : Int :=
  Int.bmod n (2 ^ 64)

/-- The digits of a number in front of a text, their base, and the text after them. -/
def numeral (cs : List Char) : Nat × List Char × List Char :=
  let split (p : Char → Bool) (cs : List Char) := (cs.takeWhile p, cs.dropWhile p)
  let isOctal (c : Char) := '0' ≤ c && c ≤ '7'
  let isHex (c : Char) := c.isDigit || ('a' ≤ c.toLower && c.toLower ≤ 'f')
  match cs with
  | '0' :: x :: d :: rest =>
    if (x == 'x' || x == 'X') && isHex d then (16, split isHex (d :: rest))
    else (8, split isOctal cs)
  | '0' :: _ => (8, split isOctal cs)
  | _ => (10, split Char.isDigit cs)

/-- The number that a text with blanks around it writes, as the C language does; an empty text
writes zero where that is allowed. -/
def number? (decimal : Bool) (s : String) : Option Int := do
  let isSpace (c : Char) := c == ' ' || ('\t' ≤ c && c ≤ '\r')
  let cs := s.toList.dropWhile isSpace
  let (sign, cs) : Int × List Char :=
    match cs with
    | '-' :: cs => (-1, cs)
    | '+' :: cs => (1, cs)
    | cs => (1, cs)
  let (base, digits, rest) :=
    if decimal then (10, cs.takeWhile Char.isDigit, cs.dropWhile Char.isDigit) else numeral cs
  if digits.isEmpty then
    if !decimal && s.toList.all isSpace then some 0 else none
  else
    let n ← Raw.digits? base digits
    if !rest.all isSpace || greatest + 1 < n || (greatest < n && sign == 1) then none
    else some (sign * n)

/-! ## Reading -/

/-- The operators between two numbers with their precedence, longer ones first. -/
def operators : List (String × Operator × Nat) :=
  [("<<", .left, 6), (">>", .right, 6), ("<=", .lessEq, 5), (">=", .greaterEq, 5),
   ("==", .equal, 4), ("!=", .unequal, 4), ("*", .times, 8), ("/", .over, 8), ("%", .rest, 8),
   ("+", .plus, 7), ("-", .minus, 7), ("<", .less, 5), (">", .greater, 5), ("&", .bitAnd, 3),
   ("^", .bitXor, 2), ("|", .bitOr, 1)]

/-- The operators that change a variable. -/
def changes : List (String × Option Operator) :=
  [("<<=", some .left), (">>=", some .right), ("*=", some .times), ("/=", some .over),
   ("%=", some .rest), ("+=", some .plus), ("-=", some .minus), ("&=", some .bitAnd),
   ("^=", some .bitXor), ("|=", some .bitOr)]

/-- A reader of expressions: what was read and the text after it, or what is wrong. -/
abbrev Parse := List Char → Except String (Expr × List Char)

/-- A text without blanks in front. -/
def skip (cs : List Char) : List Char :=
  cs.dropWhile fun c => c == ' ' || c == '\t' || c == '\n'

/-- The operator between two numbers that comes next, and the text after it. -/
def operator? (cs : List Char) : Option (Operator × Nat × List Char) := do
  let cs := skip cs
  if "&&".toList.isPrefixOf cs || "||".toList.isPrefixOf cs then none
  if changes.any fun (s, _) => s.toList.isPrefixOf cs then none
  let (s, op, level) ← operators.find? fun (s, _) => s.toList.isPrefixOf cs
  return (op, level, cs.drop s.length)

/-- The assignment that a text begins with: the name, the operator, and the text after it. -/
def assignment? (cs : List Char) : Option (String × Option Operator × List Char) := do
  let cs := skip cs
  let name := cs.takeWhile isNameRest
  if !(name.head?.any isNameStart) then none
  let rest := skip (cs.drop name.length)
  match rest with
  | '=' :: '=' :: _ => none
  | '=' :: rest => some (String.ofList name, none, rest)
  | _ =>
    let (s, op) ← changes.find? fun (s, _) => s.toList.isPrefixOf rest
    return (String.ofList name, op, rest.drop s.length)

/-- A number, a variable, or an expression in parentheses, with signs in front. -/
def primary (whole : Parse) : Nat → Parse
  | 0, _ => .error "expecting primary"
  | n + 1, cs =>
    match skip cs with
    | '(' :: cs => do
      let (e, rest) ← whole cs
      match skip rest with
      | ')' :: rest => return (e, rest)
      | _ => throw "expecting ')'"
    | '+' :: cs => primary whole n cs
    | '-' :: cs => do
      let (e, rest) ← primary whole n cs
      return (.negative e, rest)
    | '!' :: cs => do
      let (e, rest) ← primary whole n cs
      return (.not e, rest)
    | '~' :: cs => do
      let (e, rest) ← primary whole n cs
      return (.inverted e, rest)
    | c :: cs =>
      if c.isDigit then
        let (base, digits, rest) := numeral (c :: cs)
        .ok (.number (min greatest ((Raw.digits? base digits).getD 0)), rest)
      else if isNameStart c then
        .ok (.variable (String.ofList (c :: cs.takeWhile isNameRest)), cs.dropWhile isNameRest)
      else .error "expecting primary"
    | [] => .error "expecting primary"

/-- Operators of at least some precedence behind a left side. -/
def binaryFrom (one : Parse) : Nat → Nat → Expr → Parse
  | 0, _, e, cs => .ok (e, cs)
  | n + 1, level, e, cs =>
    match operator? cs with
    | some (op, l, rest) =>
      if l < level then .ok (e, cs)
      else do
        let (right, rest) ← one rest
        let (right, rest) ← binaryFrom one n (l + 1) right rest
        binaryFrom one n level (.binary op e right) rest
    | none => .ok (e, cs)

/-- Operands that `&&` joins. -/
def bothFrom (operand : Parse) : Nat → Parse
  | 0, cs => operand cs
  | n + 1, cs => do
    let (a, rest) ← operand cs
    match skip rest with
    | '&' :: '&' :: rest =>
      let (b, rest) ← bothFrom operand n rest
      return (.both a b, rest)
    | _ => return (a, rest)

/-- Operands that `||` joins. -/
def eitherFrom (operand : Parse) : Nat → Parse
  | 0, cs => operand cs
  | n + 1, cs => do
    let (a, rest) ← operand cs
    match skip rest with
    | '|' :: '|' :: rest =>
      let (b, rest) ← eitherFrom operand n rest
      return (.either a b, rest)
    | _ => return (a, rest)

/-- An assignment or a choice.  The first argument bounds the depth. -/
def expression : Nat → Parse
  | 0, _ => .error "expecting primary"
  | n + 1, cs => do
    match assignment? cs with
    | some (name, op, rest) =>
      let (e, rest) ← expression n rest
      return (.assign name op e, rest)
    | none =>
      let one := primary (expression n) (n + 1)
      let operand : Parse := fun cs => do
        let (e, rest) ← one cs
        binaryFrom one (n + 1) 0 e rest
      let (condition, rest) ← eitherFrom (bothFrom operand n) n cs
      match skip rest with
      | '?' :: rest =>
        let (yes, rest) ← expression n rest
        match skip rest with
        | ':' :: rest =>
          let (no, rest) ← expression n rest
          return (.choice condition yes no, rest)
        | _ => throw "expecting ':'"
      | _ => return (condition, rest)

/-- The expression that a text writes, or what is wrong with it. -/
def read (s : String) : Except String Expr := do
  let (e, rest) ← expression (s.length + 2) s.toList
  if (skip rest).isEmpty then return e else throw "expecting EOF"

/-! ## Values -/

/-- The number for a truth value. -/
def ofBool (b : Bool) : Int :=
  if b then 1 else 0

/-- What an operator makes of two numbers, where that is anything. -/
def apply (op : Operator) (a b : Int) : Option Int :=
  match op with
  | .times => some (wrap (a * b))
  | .over => if b = 0 then none else some (wrap (a.tdiv b))
  | .rest => if b = 0 then none else some (a.tmod b)
  | .plus => some (wrap (a + b))
  | .minus => some (wrap (a - b))
  | .left => some (wrap (a * 2 ^ (b.toNat % 64)))
  | .right => some (a / 2 ^ (b.toNat % 64))
  | .less => some (ofBool (a < b))
  | .lessEq => some (ofBool (a ≤ b))
  | .greater => some (ofBool (a > b))
  | .greaterEq => some (ofBool (a ≥ b))
  | .equal => some (ofBool (a = b))
  | .unequal => some (ofBool (a ≠ b))
  | .bitAnd => some ((BitVec.ofInt 64 a &&& BitVec.ofInt 64 b).toInt)
  | .bitXor => some ((BitVec.ofInt 64 a ^^^ BitVec.ofInt 64 b).toInt)
  | .bitOr => some ((BitVec.ofInt 64 a ||| BitVec.ofInt 64 b).toInt)

/-- Stop because an expression is wrong. -/
def fail {α : Type} (source reason : String) : Run α :=
  Run.fail ("arithmetic expression: " ++ reason ++ ": \"" ++ source ++ "\"")

/-- The number that a variable stands for. -/
def lookup (name : String) : Run Int := do
  let value := (← Run.value? name).getD ""
  match number? false value with
  | some n => return n
  | none => Run.fail ("Illegal number: " ++ value)

/-- The value of an expression that was read from a text. -/
def eval (source : String) : Expr → Run Int
  | .number n => return n
  | .variable name => lookup name
  | .negative e => return wrap (-(← eval source e))
  | .not e => return ofBool ((← eval source e) == 0)
  | .inverted e => return -(← eval source e) - 1
  | .binary op a b => do
    let x ← eval source a
    let y ← eval source b
    match apply op x y with
    | some n => return n
    | none => fail source "division by zero"
  | .both a b => do
    if (← eval source a) == 0 then return 0
    return ofBool ((← eval source b) != 0)
  | .either a b => do
    if (← eval source a) != 0 then return 1
    return ofBool ((← eval source b) != 0)
  | .choice condition yes no => do
    if (← eval source condition) != 0 then eval source yes else eval source no
  | .assign name op e => do
    let right ← eval source e
    let n ←
      match op with
      | none => pure right
      | some op =>
        match apply op (← lookup name) right with
        | some n => pure n
        | none => fail source "division by zero"
    Run.assign name (toString n)
    return n

/-- The value of the expression that a text writes. -/
def value (source : String) : Run Int :=
  match read source with
  | .ok e => eval source e
  | .error reason => fail source reason

end MonitorKeys.Shell.Arithmetic
