import MonitorKeys.Shell.Tool.Awk.Token

/-!
# Reading programs of the pattern language

The rules and functions of a program are read from its tokens.  A mistake in a statement is noted,
and reading goes on behind it, so that a message for each of them can be given.

Operators bind in this order, the tightest ones last: assignment, choice, either, both, membership,
match, comparison, joining, sum, product, sign, power.
-/

namespace MonitorKeys.Shell.Tool.Awk.Reader

/-! ## Names -/

/-- What a role is called. -/
def roleName (local_ : Bool) (r : Role) : String :=
  let name := if r == .table then "array" else "variable"
  if local_ then "local " ++ name else name

/-- The name in a token with what is known about it, which has to fit a role. -/
def use (s : String) (wanted : Role) : Reader Name := do
  let r ← get
  match r.parameters.idxOf? s with
  | some place =>
    let role := r.roles.getD place .open
    if role == .open then
      modify fun r => { r with roles := r.roles.modify place fun _ => wanted }
    else if role != wanted && wanted != .open then
      complain ("illegal reference to " ++ roleName true role ++ " " ++ s)
    return .parameter place
  | none =>
    match r.uses[s]? with
    | some (.role role) =>
      if role == .open then
        modify fun r => { r with uses := r.uses.insert s (.role wanted) }
      else if role != wanted && wanted != .open then
        complain ("illegal reference to " ++ roleName false role ++ " " ++ s)
    | some .function => complain ("illegal reference to function " ++ s)
    | none => modify fun r => { r with uses := r.uses.insert s (.role wanted) }
    return .shared s

/-- The name that the next token is. -/
def nameToken : Reader String := do
  match ← peek with
  | .name s =>
    let _ ← next
    return s
  | _ => unfit

/-- The expression that a text writes; a mistake ends it all. -/
def regexOf (s : String) : Reader Regex := do
  match readRegex s with
  | .ok r => return r
  | .error e => giveUp ("regular expression compile failed (" ++ e.text ++ ")\n" ++ s)

/-- An expression in the place of a regular one: a text is read as such. -/
def asPattern (e : Expr) : Reader Expr := do
  let rec plain : Expr → Expr
    | .group e => plain e
    | e => e
  match plain e with
  | .text s => return .regex (← regexOf s)
  | e => return e

/-- An expression in the place of a separator. -/
def asSeparator (e : Expr) : Reader Expr := do
  match e with
  | .text s => if 2 ≤ s.length then return .regex (← regexOf s) else return e
  | e => return e

/-! ## Operators -/

/-- The operation of a sign. -/
def operationOf : String → Operation
  | "+" => .add
  | "-" => .subtract
  | "*" => .multiply
  | "/" => .divide
  | "%" => .modulo
  | _ => .power

/-- The comparison of a sign. -/
def comparisonOf? : String → Option Comparison
  | "==" => some .equal
  | "!=" => some .unequal
  | "<" => some .less
  | "<=" => some .lessOrEqual
  | ">" => some .greater
  | ">=" => some .greaterOrEqual
  | _ => none

/-- How tight an operator between conditions binds. -/
def levelOf : Token → Option Nat
  | .sign "||" => some 1
  | .sign "&&" => some 2
  | .keyword "in" => some 3
  | .sign "~" | .sign "!~" => some 4
  | .sign s => (comparisonOf? s).map fun _ => 5
  | _ => none

/-- Whether an operand can begin with a token, behind another operand. -/
def beginsOperand : Token → Bool
  | .number _ | .text _ | .regex _ | .name _ | .function _ | .builtin _ | .field _ | .count => true
  | .keyword s => s == "getline"
  | .sign s => ["(", "!", "+", "-", "++", "--", "$"].contains s
  | _ => false

/-- Whether something can be assigned to an expression. -/
def isTarget : Expr → Bool
  | .variable _ | .element _ _ | .field _ => true
  | _ => false

/-- The variable that holds the number of fields. -/
def fieldCount : Expr :=
  .variable (.shared "NF")

/-- Expressions with commas between them, at least one. -/
def several (expression : Reader Expr) : Nat → List Expr → Reader (List Expr)
  | 0, es => return es.reverse
  | n + 1, es => do
    let e ← expression
    if ← accept (.sign ",") then several expression n (e :: es)
    else return (e :: es).reverse

/-- The key in brackets behind a name, the first one of which has been used. -/
def keyOf (expression : Reader Expr) : Reader (List Expr) := do
  let es ← several expression (← bound) []
  expect (.sign "]")
  return es

/-- Something to be assigned to, which begins with the next token; `field` reads what follows a
dollar sign. -/
def target (expression field : Reader Expr) : Reader Expr := do
  match ← peek with
  | .name s =>
    let _ ← next
    if ← accept (.sign "[") then
      let table ← use s .table
      return .element table (← keyOf expression)
    return .variable (← use s .variable)
  | .field n =>
    let _ ← next
    return .field (.number (natural n))
  | .count =>
    let _ ← next
    return fieldCount
  | .sign "$" =>
    let _ ← next
    return .field (← field)
  | _ => unfit

/-- Something to be assigned to, if such a thing comes next. -/
def target? (expression field : Reader Expr) : Reader (Option Expr) := do
  match ← peek with
  | .name _ | .field _ | .count | .sign "$" => return some (← target expression field)
  | _ => return none

/-- The step behind something to be assigned to, if there is one. -/
def stepped (e : Expr) : Reader Expr := do
  if ← accept (.sign "++") then return .step true false e
  else if ← accept (.sign "--") then return .step false false e
  else return e

/-! ## Calls -/

/-- The arguments of a call of a function of the program, of which those that are nothing but a name
may be tables. -/
def callArguments (expression : Reader Expr) :
    Nat → List (Expr × Option Name) → Reader (List (Expr × Option Name))
  | 0, es => return es.reverse
  | n + 1, es => do
    let e ←
      match ← peek with
      | .name s =>
        let before ← get
        let _ ← next
        let following ← peek
        if following == .sign "," || following == .sign ")" then do
          let name ← use s .open
          pure (Expr.variable name, some name)
        else do
          set before
          pure (← expression, none)
      | _ => pure (← expression, none)
    if ← accept (.sign ",") then callArguments expression n (e :: es)
    else return (e :: es).reverse

/-- A call of a function of the program, whose name has been used. -/
def callOf (expression : Reader Expr) (function : String) : Reader Expr := do
  let line := (← get).tokenLine
  expect (.sign "(")
  let arguments ←
    if (← peek) == .sign ")" then pure [] else callArguments expression (← bound) []
  expect (.sign ")")
  modify fun r =>
    { r with
      calls := { function, arguments := arguments.map (·.2), inside := r.inside, line } :: r.calls }
  return .call function (arguments.map (·.1)) line

/-- A call of a function of the language, whose name has been used. -/
def builtinOf (expression field : Reader Expr) (function : String) : Reader Expr := do
  let comma : Reader Unit := expect (.sign ",")
  match function with
  | "length" =>
    if ← accept (.sign "(") then
      if ← accept (.sign ")") then return .builtin "length" []
      match ← peek with
      | .name s =>
        let before ← get
        let _ ← next
        if (← peek) == .sign ")" then
          let _ ← next
          return .size (← use s .open)
        set before
      | _ => pure ()
      let e ← expression
      expect (.sign ")")
      return .builtin "length" [e]
    return .builtin "length" []
  | "split" =>
    expect (.sign "(")
    let e ← expression
    comma
    let table ← use (← nameToken) .table
    let separator ←
      if ← accept (.sign ",") then pure (some (← asSeparator (← expression))) else pure none
    expect (.sign ")")
    return .split e table separator
  | "match" =>
    expect (.sign "(")
    let e ← expression
    comma
    let pattern ← asPattern (← expression)
    expect (.sign ")")
    return .builtin "match" [e, pattern]
  | "sub" | "gsub" =>
    expect (.sign "(")
    let pattern ← asPattern (← expression)
    comma
    let by_ ← expression
    let e ←
      if ← accept (.sign ",") then target expression field
      else pure (.field (.number (natural 0)))
    expect (.sign ")")
    return .substitute (function == "gsub") pattern by_ e
  | _ =>
    expect (.sign "(")
    let arguments ←
      if (← peek) == .sign ")" then pure [] else several expression (← bound) []
    expect (.sign ")")
    let (least, most) := (builtins.lookup function).getD (0, 0)
    if arguments.length < least || most < arguments.length then
      complain ("wrong number of arguments in call to " ++ function)
    return .builtin function arguments

/-! ## Expressions -/

/-- An operand in parentheses, the first one of which has been used. -/
def grouped (expression : Reader Expr) : Reader Expr := do
  let listing := (← get).listing
  modify fun r => { r with listing := false }
  if listing then
    if ← accept (.sign ")") then return .list []
  let first ← expression
  if ← accept (.sign ",") then
    let es ← several expression (← bound) [first]
    expect (.sign ")")
    match ← peek with
    | .keyword "in" =>
      let _ ← next
      return .group (.isIn es (← use (← nameToken) .table))
    | .out _ => if listing then return .list es else unfit
    | t => if listing && t.isEnd then return .list es else unfit
  else
    expect (.sign ")")
    match first with
    | .field _ | .variable (.shared "NF") => stepped first
    | _ => return .group first

/-- What is read by a word that has been used. -/
def readOf (expression field power : Reader Expr) : Reader Expr := do
  modify fun r => { r with naming := true }
  let e ← target? expression field
  let isFile := (← peek) == .into
  modify fun r => { r with naming := false }
  if isFile then
    let _ ← next
    return .read .file (← power) e
  return .read .files (.number 0) e

/-- An operand without operators.  The arguments read an expression, what follows a dollar sign, and
a power. -/
def operand (expression field power : Reader Expr) : Reader Expr := do
  let t ← peek
  unless t == .sign "(" do modify fun r => { r with listing := false }
  match t with
  | .number s =>
    let _ ← next
    return .number (numberOf s)
  | .text s =>
    let _ ← next
    return .text s
  | .regex s =>
    let _ ← next
    return .regex (← regexOf s)
  | .name _ | .field _ | .count | .sign "$" => stepped (← target expression field)
  | .sign "(" =>
    let _ ← next
    grouped expression
  | .sign "++" =>
    let _ ← next
    return .step true true (← target expression field)
  | .sign "--" =>
    let _ ← next
    return .step false true (← target expression field)
  | .function s =>
    let _ ← next
    callOf expression s
  | .builtin s =>
    let _ ← next
    builtinOf expression field s
  | .keyword "getline" =>
    let _ ← next
    readOf expression field power
  | _ => unfit

/-- An operand to which the signs in front of it belong, and all that binds tighter than these.  The
first argument bounds the depth. -/
def signed (operand : Reader Expr) (rest : Expr → Reader Expr) : Nat → Reader Expr
  | 0 => unfit
  | n + 1 => do
    match ← peek with
    | .sign "!" =>
      modify fun r => { r with listing := false }
      let _ ← next
      return .not (← signed operand rest n)
    | .sign "-" =>
      modify fun r => { r with listing := false }
      let _ ← next
      return .negative (← signed operand rest n)
    | .sign "+" =>
      modify fun r => { r with listing := false }
      let _ ← next
      return .positive (← signed operand rest n)
    | _ => rest (← operand)

/-- A power whose base has been read.  The first argument bounds the depth. -/
def powerFrom (operand : Reader Expr) : Nat → Expr → Reader Expr
  | 0, base => return base
  | n + 1, base => do
    if ← accept (.sign "^") then
      return .calculate .power base (← signed operand (powerFrom operand n) n)
    return base

/-- Commands behind an expression whose output is read.  The first argument bounds their number. -/
def pipesFrom (expression field : Reader Expr) : Nat → Expr → Reader Expr
  | 0, e => return e
  | n + 1, e => do
    if ← accept (.sign "|") then
      expect (.keyword "getline")
      let target ← target? expression field
      pipesFrom expression field n (.read .command e target)
    else return e

/-- What follows a dollar sign.  The first argument bounds the depth. -/
def fieldFrom (expression : Reader Expr) : Nat → Reader Expr
  | 0 => unfit
  | n + 1 => do
    let field := fieldFrom expression n
    let power : Reader Expr := do
      powerFrom (operand expression field unfit) n (← operand expression field unfit)
    let plain := operand expression field power
    match ← peek with
    | .name _ => target expression field
    | .sign "!" | .sign "-" | .sign "+" => signed plain (powerFrom plain n) n
    | _ => plain

/-- The operands of a sum or product, given the first one.  The first argument bounds their
number. -/
def chain (signs : List String) (operand : Reader Expr) : Nat → Expr → Reader Expr
  | 0, e => return e
  | n + 1, e => do
    match ← peek with
    | .sign s =>
      if signs.contains s then
        let _ ← next
        chain signs operand n (.calculate (operationOf s) e (← operand))
      else return e
    | _ => return e

/-- Operands that are joined, given the first ones.  The first argument bounds their number. -/
def joined (operand : Reader Expr) : Nat → Expr → Reader Expr
  | 0, e => return e
  | n + 1, e => do
    if beginsOperand (← peek) then joined operand n (.join e (← operand)) else return e

/-- Give something a value, if a sign for that comes next. -/
def assigned (expression : Reader Expr) (e : Expr) : Reader Expr := do
  match ← peek with
  | .sign "=" =>
    if !isTarget e then unfit
    let _ ← next
    return .assign e (← expression)
  | .sign s =>
    if ["+=", "-=", "*=", "/=", "%=", "^="].contains s then
      if !isTarget e then unfit
      let _ ← next
      return .update (operationOf (s.take 1).toString) e (← expression)
    return e
  | _ => return e

/-- Conditions with operators between them that bind at least as tight as a level, given the first
operand.  The first argument bounds their number. -/
def conditions (operand : Reader Expr) : Nat → Nat → Expr → Reader Expr
  | 0, _, e => return e
  | n + 1, level, e => do
    let t ← peek
    match levelOf t with
    | none => return e
    | some found =>
      if found < level then return e
      let _ ← next
      if t == .keyword "in" then
        let table ← use (← nameToken) .table
        let key := match e with
          | .list es => es
          | e => [e]
        conditions operand n level (.isIn key table)
      else
        let other ← conditions operand n (found + 1) (← operand)
        let made ←
          match t with
          | .sign "||" => pure (.either e other)
          | .sign "&&" => pure (.both e other)
          | .sign "~" => do pure (.isMatch e (← asPattern other))
          | .sign "!~" => do pure (.isMismatch e (← asPattern other))
          | .sign s => pure (.compare ((comparisonOf? s).getD .equal) e other)
          | _ => unfit
        conditions operand n level made

/-- An expression.  The first argument bounds the depth. -/
def expressionFrom : Nat → Reader Expr
  | 0 => giveUp "expression too deep"
  | n + 1 => do
    let expression := expressionFrom n
    let field := fieldFrom expression n
    let powerOnly : Reader Expr := do
      let base ← operand expression field unfit
      powerFrom (operand expression field unfit) n base
    let plain := operand expression field powerOnly
    let tight (e : Expr) : Reader Expr := do
      pipesFrom expression field n (← powerFrom plain n e)
    let signedOperand := signed plain tight n
    let product : Reader Expr := do chain ["*", "/", "%"] signedOperand n (← signedOperand)
    let sum : Reader Expr := do chain ["+", "-"] product n (← product)
    let condition : Reader Expr := do
      let first ← sum
      if isTarget first then
        let made ← assigned expression first
        match made with
        | .assign _ _ | .update _ _ _ => return made
        | e => joined sum n e
      else joined sum n first
    let e ← conditions condition n 1 (← condition)
    if ← accept (.sign "?") then
      let yes ← expression
      expect (.sign ":")
      return .choice e yes (← expression)
    return e

/-- How deep expressions can be nested. -/
def depth : Nat := 1000

/-- An expression. -/
def expression : Reader Expr :=
  expressionFrom depth

/-! ## Statements -/

/-- The end of a simple statement. -/
def separator : Reader Unit := do
  match ← peek with
  | .lineEnd | .closing | .sign ";" =>
    let _ ← next
  | _ => unfit

/-- Where a statement prints to. -/
def output : Reader (Option Output) := do
  match ← peek with
  | .out s =>
    let _ ← next
    let destination : Destination :=
      if s == "|" then .command else if s == ">>" then .append else .file
    return some ⟨destination, ← expression⟩
  | _ => return none

/-- The rest of a statement that prints. -/
def printed : Reader (List Expr × Option Output) := do
  modify fun r => { r with printing := true, listing := true }
  let t ← peek
  let arguments ←
    match t with
    | .out _ => pure []
    | _ => if t.isEnd then pure [] else several expression (← bound) []
  let arguments := match arguments with
    | [.list es] => es
    | es => es
  let target ← output
  modify fun r => { r with printing := false, listing := false }
  separator
  return (arguments, target)

/-- Read the body of a loop. -/
def inLoop {α : Type} (body : Reader α) : Reader α := do
  modify fun r => { r with loops := r.loops + 1 }
  let a ← body
  modify fun r => { r with loops := r.loops - 1 }
  return a

/-- The expression in front of a separator, if there is one. -/
def optional : Reader (Option Expr) := do
  match ← peek with
  | .lineEnd | .closing | .sign ";" => return none
  | _ => return some (← expression)

/-- The parts of a loop that counts, the first parenthesis of which has been used. -/
def forLoop (statement : Reader Statement) : Reader Statement := do
  let semicolon : Reader Unit := expect (.sign ";")
  let start ←
    if (← peek) == .sign ";" then pure none else pure (some (← expression))
  let isKeys := (← peek) == .sign ")"
  match start, isKeys with
  | some (.isIn [.variable key] table), true =>
    let _ ← next
    passAllLines
    return .keyLoop key table (← inLoop statement)
  | _, _ =>
    semicolon
    let test ← if (← peek) == .sign ";" then pure none else pure (some (← expression))
    semicolon
    let step ← if (← peek) == .sign ")" then pure none else pure (some (← expression))
    expect (.sign ")")
    passAllLines
    return .forLoop start test step (← inLoop statement)

/-- A condition in parentheses. -/
def condition : Reader Expr := do
  expect (.sign "(")
  let e ← expression
  expect (.sign ")")
  return e

/-- The statements of a block up to its end.  The first argument bounds their number. -/
def statements (statement : Reader Statement) : Nat → List Statement → Reader Statement
  | 0, _ => unfit
  | n + 1, ss => do
    if ← accept (.sign "\x7d") then return .block ss.reverse
    else if (← peek) == .finish then unfit
    else statements statement n ((← statement) :: ss)

/-- A block. -/
def block (statement : Reader Statement) : Reader Statement := do
  expect (.sign "\x7b")
  statements statement (← bound) []

/-- A statement that begins with a word. -/
def wordStatement (statement : Reader Statement) (word : String) : Reader Statement := do
  let word' : Reader Unit := do
    let _ ← next
  match word with
  | "if" =>
    word'
    let test ← condition
    passAllLines
    let yes ← statement
    if ← accept (.keyword "else") then
      passAllLines
      return .choose test yes (← statement)
    return .choose test yes .nothing
  | "while" =>
    word'
    let test ← condition
    passAllLines
    return .whileLoop test (← inLoop statement)
  | "do" =>
    word'
    passAllLines
    let body ← inLoop statement
    expect (.keyword "while")
    let test ← condition
    separator
    return .doLoop body test
  | "for" =>
    word'
    expect (.sign "(")
    forLoop statement
  | "break" =>
    word'
    separator
    if (← get).loops == 0 then complain "break statement outside of loop"
    return .leaveLoop
  | "continue" =>
    word'
    separator
    if (← get).loops == 0 then complain "continue statement outside of loop"
    return .nextRound
  | "next" =>
    word'
    separator
    if !(← get).inRule then complain "improper use of next"
    return .next
  | "nextfile" =>
    word'
    separator
    if !(← get).inRule then complain "improper use of nextfile"
    return .nextFile
  | "exit" =>
    word'
    let e ← optional
    separator
    return .exit e
  | "return" =>
    word'
    let e ← optional
    separator
    if (← get).inside.isNone then complain "return outside function body"
    return .give e
  | "delete" =>
    word'
    let name ← nameToken
    if ← accept (.sign "[") then
      let table ← use name .table
      let key ← keyOf expression
      separator
      return .delete table key
    separator
    return .clear (← use name .table)
  | "print" =>
    word'
    let (es, target) ← printed
    return .print es target
  | "printf" =>
    word'
    let (es, target) ← printed
    if es.isEmpty then complain "no arguments in call to printf"
    return .printFormat es target
  | _ =>
    let e ← expression
    separator
    return .expression e

/-- Leave out what comes before the end of a statement.  The first argument bounds its length. -/
def passStatement : Nat → Reader Unit
  | 0 => throw .over
  | n + 1 => do
    match ← next with
    | .finish => throw .over
    | .lineEnd | .closing | .sign ";" =>
      modify fun r => { r with quiet := 0, parentheses := 0, printing := false }
    | _ => passStatement n

/-- A statement.  What does not fit in it is left out.  The first argument bounds the depth. -/
def statementFrom : Nat → Reader Statement
  | 0 => giveUp "statement too deep"
  | n + 1 => do
    let statement := statementFrom n
    try
      match ← peek with
      | .sign "\x7b" => block statement
      | .sign ";" | .lineEnd | .closing =>
        let _ ← next
        return .nothing
      | .keyword word => wordStatement statement word
      | _ =>
        let e ← expression
        separator
        return .expression e
    catch
      | .unfit =>
        passStatement (← bound)
        return .nothing
      | .over => throw .over

/-- An action in braces. -/
def action : Reader Statement :=
  block (statementFrom depth)

/-! ## Rules and functions -/

/-- The parameters of a function up to the parenthesis behind them.  The first argument bounds their
number. -/
def parametersFrom (function : String) : Nat → List String → Reader (List String)
  | 0, names => return names.reverse
  | n + 1, names => do
    match ← peek with
    | .name s =>
      if names.contains s then complain (s ++ " is duplicated in argument list")
      let _ ← next
      if ← accept (.sign ",") then parametersFrom function n (s :: names)
      else
        expect (.sign ")")
        return (s :: names).reverse
    | .function s =>
      if s == function then complain "function parameter cannot be the function"
      unfit
    | _ => unfit

/-- The rest of a function, the word for which has been used. -/
def functionRest : Reader Unit := do
  let name ←
    match ← peek with
    | .function s =>
      let _ ← next
      if (← get).functions.contains s then complain ("redefinition of " ++ s)
      pure s
    | .name s =>
      let _ ← next
      match (← get).uses[s]? with
      | some (.role role) => complain ("illegal reference to " ++ roleName false role ++ " " ++ s)
      | _ => modify fun r => { r with uses := r.uses.insert s .function }
      pure s
    | _ => unfit
  expect (.sign "(")
  -- A parameter may have the name of a function.
  let parameters ←
    if ← accept (.sign ")") then pure [] else parametersFrom name (← bound) []
  modify fun r =>
    { r with
      parameters, roles := Array.replicate parameters.length .open, inside := some name
      inRule := false, loops := 0 }
  if (← peek) == .lineEnd then
    let _ ← next
  let body ← action
  modify fun r =>
    { r with
      functions := r.functions.insert name { roles := r.roles, body }
      parameters := [], roles := #[], inside := none }

/-- Add a rule. -/
def addRule (pattern : Pattern) (action : Statement) : Reader Unit :=
  modify fun r => { r with rules := { pattern, action } :: r.rules }

/-- An action, or what stands for printing the record. -/
def actionOrPrint : Reader Statement := do
  match ← peek with
  | .sign "\x7b" => action
  | .lineEnd | .sign ";" =>
    let _ ← next
    return .print [] none
  | _ => unfit

/-- A rule or a function. -/
def part : Reader Unit := do
  modify fun r => { r with inRule := true, loops := 0 }
  match ← peek with
  | .keyword "function" =>
    let _ ← next
    functionRest
  | .keyword "BEGIN" =>
    let _ ← next
    modify fun r => { r with inRule := false }
    addRule .start (← action)
  | .keyword "END" =>
    let _ ← next
    modify fun r => { r with inRule := false }
    addRule .finish (← action)
  | .sign "\x7b" => addRule .always (← action)
  | _ =>
    let first ← expression
    if ← accept (.sign ",") then
      let last ← expression
      addRule (.range first last) (← actionOrPrint)
    else addRule (.test first) (← actionOrPrint)

/-- Leave out what comes before the next brace.  The first argument bounds its length. -/
def passToBrace : Nat → Reader Unit
  | 0 => throw .over
  | n + 1 => do
    match ← peek with
    | .finish => throw .over
    | .sign "\x7b" => return
    | _ =>
      let _ ← next
      passToBrace n

/-- The rules and functions up to the end.  The first argument bounds their number. -/
def parts : Nat → Reader Unit
  | 0 => return
  | n + 1 => do
    if (← peek) == .finish then return
    try part
    catch
      | .unfit =>
        modify fun r =>
          { r with
            parameters := [], roles := #[], inside := none, inRule := true }
        passToBrace (← bound)
        modify fun r => { r with quiet := 0 }
        let _ ← action
      | .over => throw .over
    parts n

/-! ## Roles of arguments -/

/-- The role of a name, in the function of that name where it is a parameter. -/
def roleOf (r : Reading) (inside : Option String) : Name → Role
  | .shared s =>
    match r.uses[s]? with
    | some (.role role) => role
    | _ => .variable
  | .parameter place => ((inside.bind (r.functions[·]?)).map (·.roles.getD place .open)).getD .open

/-- Give a role to a name that has none. -/
def setRole (r : Reading) (inside : Option String) (role : Role) : Name → Reading
  | .shared s => { r with uses := r.uses.insert s (.role role) }
  | .parameter place =>
    match inside with
    | some f =>
      { r with
        functions :=
          r.functions.modify f fun g =>
            { g with roles := g.roles.modify place fun _ => role } }
    | none => r

/-- Let arguments and the parameters for them have the same roles, as far as these are known. -/
def settleOnce (r : Reading) : Reading :=
  r.calls.foldl
    (fun r call =>
      (call.arguments.zipIdx).foldl
        (fun r (argument, place) =>
          let wanted := roleOf r (some call.function) (.parameter place)
          match argument with
          | none =>
            if wanted == .open then setRole r (some call.function) .variable (.parameter place)
            else r
          | some name =>
            let found := roleOf r call.inside name
            if found == .open && wanted != .open then setRole r call.inside wanted name
            else if wanted == .open && found != .open then
              setRole r (some call.function) found (.parameter place)
            else r)
        r)
    r

/-- Let arguments and parameters have the same roles.  The first argument bounds how often roles are
passed on. -/
def settle : Nat → Reading → Reading
  | 0, r => r
  | n + 1, r => settle n (settleOnce r)

/-- Note what is wrong with calls. -/
def checkCalls : Reader Unit := do
  modify fun r => settle (r.functions.size + 2) r
  let r ← get
  for call in r.calls.reverse do
    match r.functions[call.function]? with
    | none => complain ("function " ++ call.function ++ " never defined")
    | some f =>
      let line := "line " ++ toString call.line ++ ": "
      if f.roles.size < call.arguments.length then
        report (line ++ "too many arguments in call to " ++ call.function)
      else
        for (argument, place) in call.arguments.zipIdx do
          let wanted := f.roles.getD place .open
          let found := argument.elim .variable (roleOf r call.inside)
          if found != .open && wanted != .open && found != wanted then
            report (line ++ "type error in arg(" ++ toString (place + 1) ++ ") in call to "
              ++ call.function ++ " (actual " ++ roleName true found ++ " vs "
              ++ roleName true wanted ++ ")")

/-- Read a whole program. -/
def program : Reader Unit := do
  passAllLines
  parts (← bound)
  if (← get).messages.isEmpty then checkCalls

end Reader

/-- The program that a text writes with the tables of the whole program, or what is wrong with it. -/
def readProgram (text : String) : Except (List String) (Program × List String) :=
  let start : Reading :=
    { chars := (text ++ "\n").toList.toArray
      uses := Std.HashMap.ofList
        ((["CONVFMT", "FILENAME", "FNR", "FS", "NR", "OFMT", "OFS", "ORS", "RLENGTH", "RS",
          "RSTART", "SUBSEP", "ARGC"].map fun s => (s, Use.role .variable))
          ++ (["ARGV", "ENVIRON"].map fun s => (s, Use.role .table))) }
  let r := match Reader.program.run start with
    | .ok _ r => r
    | .error _ r => r
  if r.messages.isEmpty then
    let tables := r.uses.toList.filterMap fun (s, use) =>
      if use == .role .table then some s else none
    .ok (⟨r.rules.reverse, r.functions⟩, tables)
  else .error r.messages.reverse

end MonitorKeys.Shell.Tool.Awk
