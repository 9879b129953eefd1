import MonitorKeys.Shell.Builtin.Jobs
import MonitorKeys.Shell.Printing
import MonitorKeys.Shell.Test
import MonitorKeys.Shell.Tool

/-!
# Programs that do what builtins do

`echo`, `printf`, `test`, `pwd`, `kill`, `true` and `false` are builtins of the shell, and programs
of the system as well.  The programs print nearly the same, but say in other words what is wrong.
-/

namespace MonitorKeys.Shell.Tool.Saying

/-- `true`. -/
def succeed : Tool := fun _ _ =>
  return

/-- `false`. -/
def failing : Tool := fun _ _ =>
  Run.setStatus 1

/-- `echo`. -/
def echo : Tool := fun _ words =>
  print (Printing.systemEcho words.tail)

/-- `printf`. -/
def printf : Tool := fun _ words => do
  let arguments := if words.tail.head? == some "--" then words.tail.tail else words.tail
  match arguments with
  | [] => misuse "missing operand"
  | format :: arguments =>
    let p := Printing.printf .system format.toList (arguments.length + 1) { arguments }
    p.warnings.forM complain
    print p.out
    unless p.fatal || p.ended do
      if let first :: _ := p.arguments then
        complain ("warning: ignoring excess arguments, starting with " ++ quote first)
    Run.setStatus (if p.fatal || !p.warnings.isEmpty then 1 else 0)

/-- `pwd`. -/
def pwd : Tool := fun _ words => do
  let given ← Options.read { flags := "LP", long := [("logical", 'L'), ("physical", 'P')] }
    words.tail
  unless given.operands.isEmpty do complain "ignoring non-option arguments"
  let directory := (← Run.process).directory
  if given.lastOf? "LP" == some 'L' then print (directory ++ "\n")
  else
    match ← Run.resolve directory with
    | .ok place => print (place.path ++ "\n")
    | .error _ => print (directory ++ "\n")

/-! ## Times -/

/-- The time in milliseconds that a number with a unit writes. -/
def duration? (text : String) : Option Nat := do
  let cs := text.toList
  let unit := cs.getLast?.bind fun c => [('s', 1), ('m', 60), ('h', 3600), ('d', 86400)].lookup c
  let body := if unit.isSome then cs.dropLast else cs
  match Numeral.read? body with
  | some (.decimal d) =>
    if d.negative && d.digits != 0 then none
    else
      let scale := 1000 * (unit.getD 1)
      if 20 < d.exponent then some (10 ^ 20)
      else if d.exponent < -400 then some 1
      else
        let n := d.digits * scale * 10 ^ d.exponent.toNat
        let by_ := 10 ^ (-d.exponent).toNat
        some ((n + by_ - 1) / by_)
  | some (.infinity false) => some (10 ^ 20)
  | _ => none

/-- `sleep`. -/
def sleep : Tool := fun _ words => do
  let given ← Options.read {} words.tail
  if given.operands.isEmpty then misuse "missing operand"
  let mut total := 0
  let mut wrong := false
  for operand in given.operands do
    match duration? operand with
    | some n => total := total + n
    | none =>
      complain ("invalid time interval " ++ quote operand)
      wrong := true
  if wrong then
    Run.warn (← tryHelp)
    leave 1
  Run.sleep total

/-! ## Tests -/

/-- The words of a test that are left, and the one before them. -/
structure Conditions where
  rest : List String
  before : String

/-- A reader of a part of a test, which stops with what is wrong. -/
abbrev Condition := StateT Conditions (ExceptT String Run) Bool

/-- The operators between two operands. -/
def binaryOperators : List String :=
  ["=", "==", "!=", "-nt", "-ot", "-ef", "-eq", "-ne", "-lt", "-le", "-gt", "-ge"]

/-- The letters of operators in front of an operand. -/
def unaryLetters : List Char :=
  "bcdefghknoprstuvwxzGLNOS".toList

/-- Pass so many words. -/
def pass (count : Nat) : StateT Conditions (ExceptT String Run) Unit :=
  modify fun w => ⟨w.rest.drop count, (w.rest.take count).getLast?.getD w.before⟩

/-- Say that a word is missing. -/
def missing : StateT Conditions (ExceptT String Run) Bool := do
  let w ← get
  throw ("missing argument after " ++ quote (w.rest.getLast?.getD w.before))

/-- Whether a word is a letter with a hyphen in front. -/
def isLetterOption (word : String) : Bool :=
  word.length == 2 && word.startsWith "-"

/-- Whether a number is one, with blanks around it or none. -/
def number (s : String) : StateT Conditions (ExceptT String Run) Int := do
  let isBlank (c : Char) := c == ' ' || c == '\t'
  let inner := ((s.toList.dropWhile isBlank).reverse.dropWhile isBlank).reverse
  match Raw.int? (String.ofList inner) with
  | some n => return n
  | none => throw ("invalid integer " ++ quote s)

/-- A condition on two operands. -/
def binary : Condition := do
  match (← get).rest with
  | a :: op :: b :: _ =>
    pass 3
    let numbers (p : Int → Int → Bool) : Condition := do
      let x ← number a
      return p x (← number b)
    match op with
    | "-eq" => numbers (· == ·)
    | "-ne" => numbers (· != ·)
    | "-lt" => numbers fun x y => x < y
    | "-le" => numbers fun x y => x ≤ y
    | "-gt" => numbers fun x y => y < x
    | "-ge" => numbers fun x y => y ≤ x
    | "==" => return a == b
    | _ => Test.binary a op b
  | _ => missing

/-- A condition on one operand. -/
def unary : Condition := do
  match (← get).rest with
  | op :: rest =>
    unless unaryLetters.contains (op.toList.getD 1 ' ') do
      throw (quote op ++ ": unary operator expected")
    match rest with
    | [] => missing
    | a :: _ =>
      pass 2
      if op == "-t" then
        let _ ← number a
        return false
      Test.unary op a
  | [] => missing

/-- The condition that a word is not empty. -/
def single : Condition := do
  match (← get).rest with
  | a :: _ =>
    pass 1
    return !a.isEmpty
  | [] => missing

/-- A condition of two words. -/
def double : Condition := do
  match (← get).rest with
  | "!" :: _ =>
    pass 1
    return !(← single)
  | a :: _ => if isLetterOption a then unary else missing
  | [] => missing

/-- A condition of three words, where `whole` reads longer ones. -/
def triple (whole : Condition) : Condition := do
  match (← get).rest with
  | a :: b :: c :: _ =>
    if binaryOperators.contains b then binary
    else if a == "!" then
      pass 1
      return !(← double)
    else if a == "(" && c == ")" then
      pass 1
      let v ← single
      pass 1
      return v
    else if b == "-a" || b == "-o" then whole
    else throw (quote b ++ ": binary operator expected")
  | _ => missing

/-- A condition of a number of words. -/
def counted (whole : Condition) : Nat → Condition
  | 1 => single
  | 2 => double
  | 3 => triple whole
  | 4 => do
    match (← get).rest with
    | "!" :: _ =>
      pass 1
      return !(← triple whole)
    | a :: _ :: _ :: d :: _ =>
      if a == "(" && d == ")" then
        pass 1
        let v ← double
        pass 1
        return v
      else whole
    | _ => whole
  | _ => whole

/-- A condition without `-a` and `-o` outside of parentheses; `inner` reads what stands in these.
The first argument bounds the number of exclamation marks. -/
def term (whole : Condition) : Nat → Condition
  | 0 => missing
  | n + 1 => do
    match (← get).rest with
    | [] => missing
    | "!" :: _ =>
      pass 1
      return !(← term whole n)
    | "(" :: rest =>
      pass 1
      let count := (rest.takeWhile (· != ")")).length
      let v ← counted whole (if count < 4 then max count 1 else 5)
      match (← get).rest with
      | ")" :: _ =>
        pass 1
        return v
      | [] => throw "')' expected"
      | other :: _ => throw ("')' expected, found " ++ quote other)
    | a :: rest =>
      if rest.length ≥ 2 && binaryOperators.contains (rest.headD "") then binary
      else if isLetterOption a then unary
      else single

/-- Conditions with `-a` between them, or with `-o`. -/
def joinedBy (operator : String) (one : Condition) (join : Bool → Bool → Bool) : Nat → Bool → Condition
  | 0, v => return v
  | n + 1, v => do
    match (← get).rest with
    | word :: _ =>
      if word == operator then
        pass 1
        let w ← one
        joinedBy operator one join n (join v w)
      else return v
    | [] => return v

/-- Any condition.  The first argument bounds the depth of parentheses. -/
def condition : Nat → Condition
  | 0 => missing
  | n + 1 => do
    let bound := (← get).rest.length + 1
    let one := term (condition n) bound
    let all : Condition := do joinedBy "-a" one and bound (← one)
    joinedBy "-o" all or bound (← all)

/-- `test`, which is also called `[`. -/
def test (isBracket : Bool) : Tool := fun _ words => do
  let arguments := words.tail
  if isBracket && arguments.getLast? != some "]" then die "missing ']'" 2
  let arguments := if isBracket then arguments.dropLast else arguments
  if arguments.isEmpty then leave 1
  let whole : Condition := do
    let v ← counted (condition (arguments.length + 1)) arguments.length
    match (← get).rest with
    | [] => return v
    | word :: _ => throw ("extra argument " ++ quote word)
  match ← (whole.run ⟨arguments, ""⟩).run with
  | .ok (v, _) => Run.setStatus (if v then 0 else 1)
  | .error text => die text 2

/-! ## Signals -/

/-- How `kill` is used. -/
def killUsage (name : String) : String :=
  "\nUsage:\n " ++ name ++ " [options] <pid> [...]\n\nOptions:\n"
    ++ " <pid> [...]            send signal to every <pid> listed\n"
    ++ " -<signal>, -s, --signal <signal>\n"
    ++ "                        specify the <signal> to be sent\n"
    ++ " -q, --queue <value>    integer value to be sent with the signal\n"
    ++ " -l, --list=[<signal>]  list all signal names, or convert one to a name\n"
    ++ " -L, --table            list all signal names in a nice table\n\n"
    ++ " -h, --help     display this help and exit\n"
    ++ " -V, --version  output version information and exit\n\n"
    ++ "For more details see kill(1).\n"

/-- The names of the signals in lines. -/
def signalLines : String :=
  "HUP INT QUIT ILL TRAP ABRT BUS FPE KILL USR1 SEGV USR2 PIPE ALRM TERM STKFLT\n"
    ++ "CHLD CONT STOP TSTP TTIN TTOU URG XCPU XFSZ VTALRM PROF WINCH POLL PWR SYS\n"

/-- The signal of a name with or without its first letters. -/
def signalOf? (text : String) : Option Nat :=
  let upper := text.map Char.toUpper
  Signal.read? 0 (if upper.startsWith "SIG" then (text.drop 3).toString else text)

/-- `kill`. -/
def kill : Tool := fun _ words => do
  let name := words.headD "kill"
  let usage {α : Type} : Run α := do
    Run.warn (killUsage name)
    leave 1
  let (signal, processes) ←
    match words.tail with
    | [] => usage
    | "-l" :: [] => do
      print signalLines
      leave 0
    | "-l" :: text :: _ => do
      match Raw.nat? text, signalOf? text with
      | some n, _ => print (Signal.name (n % 128) ++ "\n")
      | none, some n => print (toString n ++ "\n")
      | none, none => die ("unknown signal name " ++ text)
      leave 0
    | "-s" :: text :: rest => pure (signalOf? text, rest)
    | "--" :: rest => pure (some 15, rest)
    | first :: rest =>
      if first.startsWith "-" then
        match signalOf? (first.drop 1).toString with
        | some n => pure (some n, rest)
        | none =>
          complain ("invalid argument " ++ (first.drop 1).toString)
          usage
      else pure (some 15, first :: rest)
  if processes.isEmpty then usage
  for text in processes do
    match Raw.int? text with
    | none => die ("failed to parse argument: " ++ quote text)
    | some n =>
      match signal with
      | none => note ("(" ++ text ++ "): Invalid argument")
      | some signal =>
        unless ← Builtin.send signal n.natAbs do
          note ("(" ++ toString n ++ "): No such process")

end MonitorKeys.Shell.Tool.Saying
