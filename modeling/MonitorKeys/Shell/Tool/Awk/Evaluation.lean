import MonitorKeys.Shell.Calendar
import MonitorKeys.Shell.Tool.Awk.World

/-!
# Running programs of the pattern language

Expressions have values and effects; statements have effects.  Functions of the language work on
values that have been found before, apart from a few that change something.
-/

namespace MonitorKeys.Shell.Tool.Awk.Eval

/-! ## Formats -/

/-- How far a format has been followed. -/
structure Progress where
  out : String := ""
  arguments : List Value
  /-- How many conversions there were. -/
  count : Nat := 0
  fault : Option String := none

/-- The text of a conversion. -/
def conversion (d : Directive) (v : Value) : Eval (Option String) := do
  let x := numberOf v
  match d.letter with
  | 's' => return some (d.text (← textOf v))
  | 'c' =>
    match settled v with
    | .number x => return some (d.pad (String.singleton (Char.ofNat (clamp x % 256).toNat)))
    | .text s => return some (d.pad (String.singleton (s.toList.headD '\x00')))
    | _ => return some (d.pad "\x00")
  | 'd' | 'i' =>
    match truncate? x with
    | some n =>
      let limit : Int := 2 ^ 64 - 1
      return some (d.integer (max (-greatest) (min limit n)))
    | none => return some (d.integer (clamp x))
  | 'o' | 'u' | 'x' | 'X' =>
    let n := max (-greatest) (min (2 ^ 64 - 1) ((truncate? x).getD (clamp x)))
    return some (d.natural (n % 2 ^ 64).toNat)
  | 'e' | 'E' | 'f' | 'g' | 'G' => return some (realText d x)
  | _ => return none

/-- Follow a format.  The first argument bounds the number of steps. -/
def follow : Nat → List Char → Progress → Eval Progress
  | 0, _, p => return p
  | _, [], p => return p
  | n + 1, '%' :: '%' :: cs, p => follow n cs { p with out := p.out ++ "%" }
  | n + 1, '%' :: cs, p => do
    let (o, rest) := Directive.outline cs
    let stars := (if o.width == .asked then 1 else 0) + if o.precision == .asked then 1 else 0
    let tooFew : Progress := { p with fault := some "not enough arguments passed to " }
    if p.arguments.length ≤ stars then return tooFew
    let numbers := (p.arguments.take stars).map fun v => clamp (numberOf v)
    let sizes := rest.takeWhile fun c => c == 'l' || c == 'h'
    let count := p.count + 1
    let improper : Progress :=
      { p with fault := some ("improper conversion(number " ++ toString count ++ ") in ") }
    match rest.drop sizes.length, p.arguments.drop stars with
    | letter :: after, v :: others =>
      if !sizes.isEmpty && "scefgEG".toList.contains letter then return improper
      match ← conversion (Directive.ofOutline o letter numbers) v with
      | some s => follow n after { p with out := p.out ++ s, arguments := others, count }
      | none => return improper
    | [], _ => return improper
    | _, [] => return tooFew
  | n + 1, c :: cs, p => follow n cs { p with out := p.out.push c }

/-- What a format and its arguments write; what was written before something goes wrong is used by
the action that is given. -/
def formatBy (who : String) (arguments : List Value) (early : String → Eval Unit) : Eval String := do
  match arguments with
  | [] => return ""
  | format :: arguments =>
    let s ← textOf format
    let p ← follow (s.length + 1) s.toList { arguments }
    match p.fault with
    | none => return p.out
    | some text =>
      early p.out
      fault (text ++ who ++ "(\"" ++ s ++ "\")")

/-! ## Functions of the language -/

/-- Where a text begins in another one, counted from one; zero where it does not. -/
def indexOf (part : List Char) : List Char → Nat → Nat
  | [], place => if part.isEmpty then place else 0
  | c :: cs, place => if part.isPrefixOf (c :: cs) then place else indexOf part cs (place + 1)

/-- A part of a text from a place on. -/
def slice (s : String) (start : Float) (count : Option Float) : String :=
  let start := clamp start
  match count with
  | none => (s.drop (start - 1).toNat).toString
  | some n =>
    let count := clamp n + if start < 0 then -start else 0
    ((s.drop (start - 1).toNat).take count.toNat).toString

/-- The moment that a text of numbers writes. -/
def momentOf (s : String) : Int :=
  match ((s.splitOn " ").filter (!·.isEmpty)).map fun w => (Raw.int? w).getD 0 with
  | year :: month :: day :: hour :: minute :: second :: _ =>
    Date.seconds year month day hour minute second
  | _ => -1

/-- The value of a function of the language that depends on its arguments alone; `none` for others. -/
def pureFunction (name : String) (arguments : List Value) : Eval (Option Value) := do
  let real (f : Float → Float) : Eval (Option Value) :=
    return some (.number (f (numberOf (arguments.headD .unset))))
  let text (n : Nat) : Eval String := textOf (arguments.getD n .unset)
  match name, arguments with
  | "sin", _ => real Float.sin
  | "cos", _ => real Float.cos
  | "exp", _ => real Float.exp
  | "log", _ => real Float.log
  | "sqrt", _ => real Float.sqrt
  | "int", _ => real fun x => if x < 0.0 then x.ceil else x.floor
  | "atan2", [y, x] => return some (.number (Float.atan2 (numberOf y) (numberOf x)))
  | "index", _ =>
    let s ← text 0
    let part ← text 1
    return some (.number (natural (indexOf part.toList s.toList 1)))
  | "substr", s :: start :: rest =>
    let s ← textOf s
    return some (.text (slice s (numberOf start) (rest.head?.map numberOf)))
  | "tolower", _ => return some (.text ((← text 0).map Char.toLower))
  | "toupper", _ => return some (.text ((← text 0).map Char.toUpper))
  | "sprintf", _ => return some (.text (← formatBy "sprintf" arguments fun _ => pure ()))
  | "mktime", _ => return some (.number (whole (momentOf (← text 0))))
  | "strftime", _ =>
    let format ← if arguments.isEmpty then pure "%c" else text 0
    let moment := match arguments[1]? with
      | some v => clamp (numberOf v)
      | none => 0
    return some (.text (Date.format moment format))
  | _, _ => return none

/-- The value of a function of the language. -/
def builtin (interp : Interpreter) (name : String) (arguments : List Value) : Eval Value := do
  match ← pureFunction name arguments with
  | some v => return v
  | none =>
    let first := arguments.headD .unset
    match name with
    | "length" =>
      let s ← if arguments.isEmpty then pure (← get).record else textOf first
      return .number (natural s.length)
    | "rand" =>
      let bits := Run.arbitrary 4 (← (Run.system : Run _)).seed ""
      (Run.onSystem (fun y => { y with seed := y.seed + 1 }) : Run _)
      let n := bits.foldl (fun n c => n * 256 + c.toNat) 0
      return .number (natural n / natural (2 ^ 32))
    | "srand" =>
      let before := (← get).seed
      let after := if arguments.isEmpty then 0.0 else numberOf first
      modify fun w => { w with seed := after }
      return .number before
    | "systime" => return .number (natural ((← (Run.system : Run _)).clock / 1000))
    | "system" =>
      flushAll
      let ended ← (shellCommand interp (← textOf first) : Run _)
      return .number (whole (numberOfEnd ended))
    | "close" => return .number (whole (← close interp (← textOf first)))
    | "fflush" =>
      if arguments.isEmpty then
        flushOrDie
        return .number 0.0
      let name ← textOf first
      match (← get).sinks.find? (·.name == name) with
      | some s =>
        let _ ← flushSink s
        modify fun w =>
          { w with
            sinks := w.sinks.map fun t =>
              if t.name == name && !t.isCommand then { t with texts := [] } else t }
        return .number 0.0
      | none =>
        if name == "/dev/stdout" then
          flushOrDie
          return .number 0.0
        return .number (-1.0)
    | _ => return .unset

/-! ## Operations -/

/-- The result of an operation. -/
def calculate : Operation → Float → Float → Float
  | .add, x, y => x + y
  | .subtract, x, y => x - y
  | .multiply, x, y => x * y
  | .divide, x, y => x / y
  | .modulo, x, y => remainder x y
  | .power, x, y => Float.pow x y

/-- Whether an order is one that a comparison asks for. -/
def holds (how : Comparison) (found : Ordering) : Bool :=
  match how with
  | .equal => found == .eq
  | .unequal => found != .eq
  | .less => found == .lt
  | .lessOrEqual => found != .gt
  | .greater => found == .gt
  | .greaterOrEqual => found != .lt

/-! ## Expressions -/

/-- Something that can be assigned to, with its key or number found. -/
inductive Spot where
  | variable (v : Name)
  | element (table : String) (key : Key)
  | field (n : Nat)

/-- The value in a spot. -/
def loadSpot : Spot → Eval Value
  | .variable v => load v
  | .element table key => element table key
  | .field n => field n

/-- Put a value into a spot. -/
def storeSpot (v : Value) : Spot → Eval Unit
  | .variable name => store v name
  | .element table key => setElement table key v
  | .field n => setField n v

/-- The number of a field that a value names. -/
def fieldNumber (v : Value) : Eval Nat := do
  let n := clamp (numberOf v)
  if n < 0 then fault ("negative field index $" ++ toString n)
  return n.toNat

/-- How many parameters the functions that run can have together. -/
def greatestHeight : Nat := 1020

/-- What the arguments of a call are for a function, and the names of the tables that were made for
it. -/
def cellsOf (f : Function) (eval : Expr → Eval Value) (arguments : List Expr) :
    Eval (Array Cell × List String) := do
  let mut cells := #[]
  let mut made := []
  for place in List.range (max f.roles.size arguments.length) do
    let role := f.roles.getD place .open
    match arguments[place]?, role with
    | some (.variable name), .table =>
      cells := cells.push (.table (← tableOf name))
    | some e, .table =>
      let _ ← eval e
      cells := cells.push (.table "")
    | some e, _ => cells := cells.push (.value (← eval e))
    | none, .table =>
      let name := toString (← get).unnamed
      modify fun w => { w with unnamed := w.unnamed + 1 }
      made := name :: made
      cells := cells.push (.table name)
    | none, _ => cells := cells.push (.value .unset)
  return (cells, made)

/-- Run the body of a function with its parameters, and give back its value. -/
def inFunction (cells : Array Cell) (made : List String) (body : Eval Unit) : Eval Value := do
  let before ← get
  let height := before.height + cells.size
  if greatestHeight < height then die "program limit exceeded: eval stack size=1024"
  if greatestHeight < before.calls then (throw (.killed 11) : Run Unit)
  set { before with frame := cells, height, calls := before.calls + 1 }
  let v ←
    try
      body
      pure Value.unset
    catch
      | .give v => pure v
      | other => throw other
  modify fun w =>
    { w with
      frame := before.frame, height := before.height, calls := before.calls
      tables := made.foldl (fun ts name => ts.erase name) w.tables }
  return v

/-- Read a record, and say how that went; the value goes to a spot, or becomes the record. -/
def readInto (interp : Interpreter) (origin : Origin) (name : String) (spot : Option Spot) :
    Eval Value := do
  let found ←
    match origin with
    | .files => pure (some (← nextOfFiles))
    | .file => readNamed interp false name
    | .command => readNamed interp true name
  match found with
  | none => return .number (-1.0)
  | some none => return .number 0.0
  | some (some s) =>
    match spot with
    | some spot => storeSpot (.given s) spot
    | none => setRecord s
    return .number 1.0

/-- What a statement leads to. -/
inductive Flow where
  | onward
  | leaveLoop
  | nextRound
  deriving DecidableEq, Repr

/-- Run statements one after the other. -/
def inOrder (run : Statement → Eval Flow) : List Statement → Eval Flow
  | [] => return .onward
  | s :: ss => do
    match ← run s with
    | .onward => inOrder run ss
    | other => return other

/-- How many rounds a loop can have. -/
def greatestRounds : Nat := 100000000

/-- Run a loop.  The first argument bounds the number of its rounds. -/
def loop (test : Eval Bool) (body : Eval Flow) (step : Eval Unit) : Nat → Eval Flow
  | 0 => (throw .expired : Run Flow)
  | n + 1 => do
    (Run.spend 1 : Run Unit)
    if ← test then
      match ← body with
      | .leaveLoop => return .onward
      | _ =>
        step
        loop test body step n
    else return .onward

/-- Run a loop over keys. -/
def overKeys (body : String → Eval Flow) : List String → Eval Flow
  | [] => return .onward
  | k :: ks => do
    match ← body k with
    | .leaveLoop => return .onward
    | _ => overKeys body ks

/-- The text that a key of several parts is. -/
def compound (parts : List Value) : Eval Value := do
  match parts with
  | [v] => return v
  | vs =>
    let between ← textOf (← shared "SUBSEP")
    return .text (between.intercalate (← vs.mapM textOf))

mutual

/-- The value of an expression.  The first argument bounds the depth. -/
def value (interp : Interpreter) (program : Program) : Nat → Expr → Eval Value
  | 0, _ => (throw (.killed 11) : Run Value)
  | n + 1, e => do
    let eval := value interp program n
    let number (e : Expr) : Eval Float := return numberOf (← eval e)
    let spotOf (e : Expr) : Eval Spot := do
      match e with
      | .variable v => return .variable v
      | .element table key =>
        let key ← keyOf (← compound (← key.mapM eval))
        let table ← tableOf table
        let _ ← element table key
        return .element table key
      | .field index => return .field (← fieldNumber (← eval index))
      | _ => return .field 0
    let regexFor (e : Expr) : Eval Regex := do
      match e with
      | .regex r => return r
      | .group (.regex r) => return r
      | e => regexOf (← textOf (← eval e))
    match e with
    | .number x => return .number x
    | .text s => return .text s
    | .regex r => return truth (r.isIn (← get).record.toList)
    | .variable v => load v
    | .element table key =>
      let key ← keyOf (← compound (← key.mapM eval))
      element (← tableOf table) key
    | .field index => field (← fieldNumber (← eval index))
    | .group e => eval e
    | .list es => compound (← es.mapM eval)
    | .assign target e =>
      let spot ← spotOf target
      let v ← eval e
      storeSpot v spot
      loadSpot spot
    | .update operation target e =>
      let spot ← spotOf target
      let y ← number e
      let v := Value.number (calculate operation (numberOf (← loadSpot spot)) y)
      storeSpot v spot
      return v
    | .step up before target =>
      let spot ← spotOf target
      let x := numberOf (← loadSpot spot)
      let y := if up then x + 1.0 else x - 1.0
      storeSpot (.number y) spot
      return .number (if before then y else x)
    | .not e => return truth (!isTrue (← eval e))
    | .negative e => return .number (-(← number e))
    | .positive e => return .number (← number e)
    | .calculate operation a b =>
      let x ← number a
      return .number (calculate operation x (← number b))
    | .join a b =>
      let s ← textOf (← eval a)
      return .text (s ++ (← textOf (← eval b)))
    | .compare how a b =>
      let v ← eval a
      return truth (holds how (← order v (← eval b)))
    | .isMatch e pattern =>
      let s ← textOf (← eval e)
      return truth ((← regexFor pattern).isIn s.toList)
    | .isMismatch e pattern =>
      let s ← textOf (← eval e)
      return truth (!(← regexFor pattern).isIn s.toList)
    | .both a b =>
      if isTrue (← eval a) then return truth (isTrue (← eval b))
      return truth false
    | .either a b =>
      if isTrue (← eval a) then return truth true
      return truth (isTrue (← eval b))
    | .choice test yes no => if isTrue (← eval test) then eval yes else eval no
    | .isIn key table =>
      let key ← keyOf (← compound (← key.mapM eval))
      return truth (← onTable (← tableOf table) fun t =>
        let (found, t) := t.find? key
        (found.isSome, t))
    | .call function arguments _ =>
      match program.functions[function]? with
      | none => return .unset
      | some f =>
        let (cells, made) ← cellsOf f eval arguments
        inFunction cells made do
          let _ ← run interp program n f.body
    | .builtin "match" [e, pattern] =>
      let s ← textOf (← eval e)
      let found := (← regexFor pattern).find? s.toList.toArray
      let (start, length) : Float × Float := match found with
        | some m => (natural (m.start + 1), natural (m.stop - m.start))
        | none => (0.0, -1.0)
      store (.number start) (.shared "RSTART")
      store (.number length) (.shared "RLENGTH")
      return .number start
    | .builtin name arguments => builtin interp name (← arguments.mapM eval)
    | .size v =>
      let isTable ←
        match v with
        | .shared s => pure ((← get).tables.contains s)
        | .parameter place =>
          match (← get).frame[place]? with
          | some (.table _) => pure true
          | _ => pure false
      if isTable then
        let size ← onTable (← tableOf v) fun t => (t.values.size, t)
        return .number (natural size)
      return .number (natural (← textOf (← load v)).length)
    | .split e table separator =>
      let s ← textOf (← eval e)
      let separator ←
        match separator with
        | none => separatorOf (← textOf (← shared "FS"))
        | some (.regex r) => pure (.regex r)
        | some e => separatorOf (← textOf (← eval e))
      let parts := Eval.split separator s
      onTable (← tableOf table) fun _ => ((), Table.ofList parts)
      return .number (natural parts.length)
    | .substitute everywhere pattern by_ target =>
      let r ← regexFor pattern
      let new ← textOf (← eval by_)
      let spot ← spotOf target
      let s ← textOf (← loadSpot spot)
      let (out, count) := substituted everywhere r new s
      if count != 0 then storeSpot (.text out) spot
      return .number (natural count)
    | .read origin source target =>
      let spot ← target.mapM spotOf
      let name ← if origin == .files then pure "" else textOf (← eval source)
      readInto interp origin name spot

/-- Run a statement.  The first argument bounds the depth. -/
def run (interp : Interpreter) (program : Program) : Nat → Statement → Eval Flow
  | 0, _ => (throw (.killed 11) : Run Flow)
  | n + 1, s => do
    let eval := value interp program n
    let body := run interp program n
    let isSo (e : Option Expr) : Eval Bool := do
      match e with
      | some e => return isTrue (← eval e)
      | none => return true
    let print (text : String) (output : Option Output) : Eval Unit := do
      match output with
      | none => emit text
      | some o => emitTo o.destination (← textOf (← eval o.name)) text
    match s with
    | .nothing => return .onward
    | .expression e =>
      let _ ← eval e
      return .onward
    | .print es output =>
      let text ←
        if es.isEmpty then pure (← get).record
        else do
          let values ← es.mapM eval
          let between ← textOf (← shared "OFS")
          pure (between.intercalate (← values.mapM (textBy "OFMT")))
      let lineEnd ← textOf (← shared "ORS")
      print (text ++ lineEnd) output
      return .onward
    | .printFormat es output =>
      let values ← es.mapM eval
      let text ← formatBy "printf" values fun s => print s output
      print text output
      return .onward
    | .block ss => inOrder body ss
    | .choose test yes no => if isTrue (← eval test) then body yes else body no
    | .whileLoop test s => loop (isSo (some test)) (body s) (pure ()) greatestRounds
    | .doLoop s test =>
      match ← body s with
      | .leaveLoop => return .onward
      | _ => loop (isSo (some test)) (body s) (pure ()) greatestRounds
    | .forLoop start test step s =>
      if let some e := start then
        let _ ← eval e
      let step : Eval Unit := do
        if let some e := step then
          let _ ← eval e
      loop (isSo test) (body s) step greatestRounds
    | .keyLoop key table s =>
      let keys ← onTable (← tableOf table) Table.keys
      overKeys (fun k => do
        store (.text k) key
        body s) keys
    | .leaveLoop => return .leaveLoop
    | .nextRound => return .nextRound
    | .next => throw .next
    | .nextFile => throw .nextFile
    | .exit status =>
      if let some e := status then
        let v ← eval e
        modify fun w => { w with status := (clamp (numberOf v) % 256).toNat }
      throw .exit
    | .give e =>
      match e with
      | some e => throw (.give (← eval e))
      | none => throw (.give .unset)
    | .delete table key =>
      let key ← keyOf (← compound (← key.mapM eval))
      onTable (← tableOf table) fun t => ((), t.erase key)
      return .onward
    | .clear table =>
      onTable (← tableOf table) fun _ => ((), {})
      return .onward

end

end MonitorKeys.Shell.Tool.Awk.Eval
