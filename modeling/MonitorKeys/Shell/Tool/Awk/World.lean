import MonitorKeys.Shell.Tool.Awk.Grammar

/-!
# The state of a running program

A running program has variables and tables, the record that it looks at with its fields, files and
commands that it reads from, and others that it prints to.  What it prints is kept until there is a
reason to hand it on: a command is started, the program says so, or it ends.
-/

namespace MonitorKeys.Shell.Tool.Awk

/-- What a parameter holds: a value, or the name of a table. -/
inductive Cell where
  | value (v : Value)
  | table (name : String)

/-- Records that are read one by one. -/
structure Source where
  chars : Array Char
  place : Nat := 0
  /-- How the command ended that printed them. -/
  ended : ExitStatus := .code 0

/-- A file or a command that is printed to, with what is still to be handed on. -/
structure Sink where
  name : String
  isCommand : Bool
  file : Nat := 0
  /-- The texts, the last one first. -/
  texts : List String := []

/-- What is still to be handed on. -/
def Sink.text (s : Sink) : String :=
  String.join s.texts.reverse

/-- The state of a program. -/
structure World where
  values : Std.HashMap String Value := {}
  tables : Std.HashMap String Table := {}
  /-- The parameters of the function that runs. -/
  frame : Array Cell := #[]
  /-- How many tables without a name there have been. -/
  unnamed : Nat := 0
  /-- How many parameters the functions that run have together. -/
  height : Nat := 0
  /-- How many functions run. -/
  calls : Nat := 0
  record : String := ""
  fields : Array Value := #[]
  /-- The file that records are taken from. -/
  current : Option Source := none
  /-- The place of the next file among the arguments. -/
  nextFile : Nat := 1
  /-- Whether there was a file among the arguments so far. -/
  hadFile : Bool := false
  files : List (String × Source) := []
  commands : List (String × Source) := []
  sinks : List Sink := []
  printed : String := ""
  /-- Whether nothing is said about what goes wrong with the output at the end: it was said before, or
  something was printed to the error output. -/
  endsQuietly : Bool := false
  expressions : Std.HashMap String Regex := {}
  /-- The numbers of the ranges that are open. -/
  ranges : List Nat := []
  status : Nat := 0
  seed : Float := 0.0

/-- Why a statement stops before its end. -/
inductive Escape where
  /-- The next record is to be looked at. -/
  | next
  | nextFile
  /-- The program ends. -/
  | exit
  /-- The function ends. -/
  | give (v : Value)
  /-- The program cannot go on. -/
  | abort

/-- An action of a running program. -/
abbrev Eval := ExceptT Escape (StateT World Run)

namespace Eval

/-! ## Messages -/

/-- Say what is wrong. -/
def complain (text : String) : Eval Unit := do
  let p ← (Run.process : Run _)
  (Run.warn (Tree.baseName p.name ++ ": " ++ text ++ "\n") : Run _)

/-- Say what is wrong and end the program. -/
def die {α : Type} (text : String) : Eval α := do
  complain text
  throw .abort

/-! ## Values -/

/-- The number that a value counts as. -/
def numberOf : Value → Float
  | .unset => 0.0
  | .number x => x
  | .text s | .given s => Awk.numberOf s

/-- The value of a variable of the whole program. -/
def shared (name : String) : Eval Value := do
  return (← get).values.getD name .unset

/-- The text of a value, where numbers are written by the format in a variable. -/
def textBy (format : String) : Value → Eval String
  | .unset => return ""
  | .text s | .given s => return s
  | .number x => do
    match truncate? x with
    | some n => if n.natAbs < 2 ^ 53 && whole n == x then return toString n
    | none => pure ()
    match ← shared format with
    | .text s | .given s => return textOf s x
    | .number y => return textOf (textOf "%.6g" y) x
    | .unset => return textOf "" x

/-- The text of a value. -/
def textOf (v : Value) : Eval String :=
  textBy "CONVFMT" v

/-- Say what goes wrong while the program runs, and end it. -/
def fault {α : Type} (text : String) : Eval α := do
  let file ← textOf (← shared "FILENAME")
  let inFile ← textOf (← shared "FNR")
  let all ← textOf (← shared "NR")
  die ("run time error: " ++ text ++ "\n\tFILENAME=\"" ++ file ++ "\" FNR=" ++ inFile ++ " NR="
    ++ all)

/-- A value as a number or a text: one from outside is a number where it looks like one. -/
def settled : Value → Value
  | .given s =>
    match wholeNumber? s with
    | some x => .number x
    | none => .text s
  | v => v

/-- Whether a value counts as true. -/
def isTrue (v : Value) : Bool :=
  match settled v with
  | .number x => x != 0.0
  | .text s => !s.isEmpty
  | _ => false

/-- A truth value. -/
def truth (b : Bool) : Value :=
  .number (if b then 1.0 else 0.0)

/-- The order of two values, as numbers where both are some, and else as texts. -/
def order (a b : Value) : Eval Ordering := do
  match settled a, settled b with
  | .text _, _ | _, .text _ =>
    let s ← textOf a
    let t ← textOf b
    return compare s t
  | x, y =>
    let x := numberOf x
    let y := numberOf y
    return if x > y then .gt else if x < y then .lt else .eq

/-! ## Expressions and separators -/

/-- The regular expression that a text writes. -/
def regexOf (s : String) : Eval Regex := do
  match (← get).expressions[s]? with
  | some r => return r
  | none =>
    match readRegex s with
    | .ok r =>
      modify fun w => { w with expressions := w.expressions.insert s r }
      return r
    | .error e => fault ("regular expression compile failed (" ++ e.text ++ ")\n" ++ s)

/-- The separator that a text writes. -/
def separatorOf (s : String) : Eval Separator := do
  match s.toList with
  | [] => return .nothing
  | [' '] => return .blanks
  | [c] => return .sign c
  | _ => return .regex (← regexOf s)

/-- The parts of a text. -/
def split (separator : Separator) (s : String) : List Value :=
  (separator.split s).map .given

/-! ## The record -/

/-- Make a text the record. -/
def setRecord (s : String) : Eval Unit := do
  let separator ← separatorOf (← textOf (← shared "FS"))
  modify fun w => { w with record := s, fields := (split separator s).toArray }

/-- Make the record anew from its fields. -/
def joinFields : Eval Unit := do
  let between ← textOf (← shared "OFS")
  let mut parts := []
  for v in (← get).fields do
    parts := (← textOf v) :: parts
  modify fun w => { w with record := between.intercalate parts.reverse }

/-- Make so many fields. -/
def setCount (n : Nat) : Eval Unit := do
  modify fun w =>
    { w with
      fields :=
        if n ≤ w.fields.size then w.fields.extract 0 n
        else w.fields ++ Array.replicate (n - w.fields.size) Value.unset }
  joinFields

/-- A field; the record is field zero. -/
def field (n : Nat) : Eval Value := do
  let w ← get
  if n == 0 then return .given w.record
  return w.fields.getD (n - 1) .unset

/-- Give a field a value. -/
def setField (n : Nat) (v : Value) : Eval Unit := do
  if n == 0 then setRecord (← textOf v)
  else
    if (← get).fields.size < n then
      modify fun w =>
        { w with fields := w.fields ++ Array.replicate (n - w.fields.size) Value.unset }
    modify fun w => { w with fields := w.fields.setIfInBounds (n - 1) v }
    joinFields

/-! ## Variables and tables -/

/-- The name of a table. -/
def tableOf : Name → Eval String
  | .shared s => return s
  | .parameter place => do
    match (← get).frame[place]? with
    | some (.table s) => return s
    | _ => return ""

/-- Change a table; the function gives an answer, too. -/
def onTable {α : Type} (name : String) (f : Table → α × Table) : Eval α := do
  let w ← get
  let (a, t) := f (w.tables.getD name {})
  set { w with tables := w.tables.insert name t }
  return a

/-- The value of a variable. -/
def load : Name → Eval Value
  | .shared "NF" => return .number (natural (← get).fields.size)
  | .shared s => shared s
  | .parameter place => do
    match (← get).frame[place]? with
    | some (.value v) => return v
    | _ => return .unset

/-- Give a variable a value. -/
def store (v : Value) : Name → Eval Unit
  | .shared "NF" => do
    let n := numberOf v
    match truncate? n with
    | some n =>
      if n < 0 then fault "negative value assigned to NF"
      setCount n.toNat
    | none => setCount 0
  | .shared s => do
    if s == "FS" || s == "RS" then
      let text ← textOf v
      if 2 ≤ text.length then
        let _ ← regexOf text
    modify fun w => { w with values := w.values.insert s v }
  | .parameter place =>
    modify fun w => { w with frame := w.frame.setIfInBounds place (.value v) }

/-- The key that a value is. -/
def keyOf (v : Value) : Eval Key := do
  match v with
  | .number x =>
    match truncate? x with
    | some n =>
      if n.natAbs < 2 ^ 53 && whole n == x then return .number n
      return .text (← textOf v)
    | none => return .text (← textOf v)
  | v => return .text (← textOf v)

/-- What a table holds under a key, which is there from now on. -/
def element (table : String) (key : Key) : Eval Value :=
  onTable table fun t =>
    match t.find? key with
    | (some v, t) => (v, t)
    | (none, t) => (.unset, t.put key .unset)

/-- Put a value into a table. -/
def setElement (table : String) (key : Key) (v : Value) : Eval Unit :=
  onTable table fun t => ((), t.put key v)

/-! ## Printing -/

/-- How many bytes a pipe takes before its reader is done for good. -/
def pipeLimit : Nat := 2 ^ 20

/-- Hand on what was printed, and say how that went. -/
def flushPrinted : Eval (Option FileError) := do
  let text := (← get).printed
  if text.isEmpty then return none
  modify fun w => { w with printed := "" }
  let isFull ← (do
    match ← Run.openFile? 1 with
    | some (_, { target := .pipe n, .. }) =>
      return pipeLimit < ((← Run.system).pipes.getD n {}).content.size
    | _ => return false : Run Bool)
  if isFull then (Run.breakPipe : Run _) else (Run.write 1 text : Run _)

/-- Hand on what was printed; a program that cannot do so ends. -/
def flushOrDie : Eval Unit := do
  match ← flushPrinted with
  | none => return
  | some e =>
    complain ("write failure (" ++ e.text ++ ")")
    die ("close failed on file \"/dev/stdout\" (" ++ e.text ++ ")")

/-- Print a text. -/
def emit (s : String) : Eval Unit := do
  modify fun w => { w with printed := w.printed ++ s }
  if 4096 ≤ (← get).printed.utf8ByteSize then flushOrDie

/-- Hand on the text of a file that is printed to, and say how that went. -/
def flushSink (s : Sink) : Eval (Option FileError) := do
  if s.isCommand then return none
  match (← (Run.system : Run _)).files[s.file]? with
  | some opened => (Run.writeTo s.file opened s.text : Run _)
  | none => return none

/-- Hand on all that was printed, before something else is started. -/
def flushAll : Eval Unit := do
  match ← flushPrinted with
  | none => pure ()
  | some e => complain ("unexpected write error (" ++ e.text ++ ")")
  let sinks ← (← get).sinks.mapM fun s => do
    let _ ← flushSink s
    return { s with texts := if s.isCommand then s.texts else [] }
  modify fun w => { w with sinks }

/-- The words that start a shell with a command to print to or to read from. -/
def shellWords (command : String) : List String :=
  ["/bin/sh", "-c", command]

/-- Start a shell with a command to print to. -/
def shell (interp : Interpreter) (command : String) : Run ExitStatus :=
  Launch.run interp (shellWords command) fun _ => Run.setStatus 127

/-- The number for the end of a command. -/
def numberOfEnd : ExitStatus → Int
  | .code n => (n % 256 : Nat)
  | .signal n => 256 + n

/-- Finish what is printed to; the answer is the status of a command, or says how it went. -/
def closeSink (interp : Interpreter) (s : Sink) : Eval Int := do
  modify fun w => { w with sinks := w.sinks.filter (·.name != s.name) }
  if s.isCommand then
    return numberOfEnd (← (withInput s.text (shell interp s.name) : Run _))
  match ← flushSink s with
  | none => return 0
  | some e => die ("close failed on file \"" ++ s.name ++ "\" (" ++ e.text ++ ")")

/-- What is printed to under a name, which is begun if need be. -/
def sinkOf (destination : Destination) (name : String) : Eval Sink := do
  match (← get).sinks.find? (·.name == name) with
  | some s =>
    modify fun w => { w with sinks := s :: w.sinks.filter (·.name != name) }
    return s
  | none =>
    let s : Sink ←
      if destination == .command then do
        flushAll
        pure { name, isCommand := true }
      else do
        let opening : Opening := if destination == .append then .append else .write
        match ← (Run.openPath name opening : Run _) with
        | .ok file => pure { name, isCommand := false, file }
        | .error e => die ("cannot open \"" ++ name ++ "\" for output (" ++ e.text ++ ")")
    modify fun w => { w with sinks := s :: w.sinks }
    return s

/-- Print a text to a file or a command. -/
def emitTo (destination : Destination) (name text : String) : Eval Unit := do
  if destination != .command && name == "/dev/stdout" then emit text
  else if destination != .command && name == "/dev/stderr" then
    modify fun w => { w with endsQuietly := true }
    (Run.warn text : Run _)
  else
    let s ← sinkOf destination name
    modify fun w =>
      { w with
        sinks := w.sinks.map fun t =>
          if t.name == s.name then { t with texts := text :: t.texts } else t }

/-- Hand on what was printed at the end, and say whether that went wrong. -/
def closePrinted : Eval Bool := do
  let isClosed := (← (Run.openFile? 1 : Run _)).isNone
  match ← flushPrinted with
  | none => if !isClosed then return false
  | some _ => pure ()
  let e := if isClosed then FileError.badDescriptor else .full
  unless (← get).endsQuietly do
    complain ("close failed on file \"/dev/stdout\" (" ++ e.text ++ ")")
  modify fun w => { w with endsQuietly := true }
  return true

/-- Finish all that is printed to, commands first. -/
def finish (interp : Interpreter) : Eval Unit := do
  for s in (← get).sinks do
    if s.isCommand then
      let _ ← closeSink interp s
  let mut failed ← closePrinted
  for s in (← get).sinks do
    match ← flushSink s with
    | none => pure ()
    | some e =>
      complain ("close failed on file \"" ++ s.name ++ "\" (" ++ e.text ++ ")")
      failed := true
  if failed then throw .abort

/-! ## Reading -/

/-- Where a character stands next, from a place on, or the end. -/
def findChar (chars : Array Char) (c : Char) : Nat → Nat → Nat
  | 0, place => place
  | n + 1, place =>
    match chars[place]? with
    | some d => if d == c then place else findChar chars c n (place + 1)
    | none => place

/-- How many line ends stand from a place on. -/
def lineEnds (chars : Array Char) : Nat → Nat → Nat → Nat
  | 0, _, count => count
  | n + 1, place, count =>
    if chars[place]? == some '\n' then lineEnds chars n (place + 1) (count + 1) else count

/-- Where the next empty line begins, from a place on, or the end. -/
def findGap (chars : Array Char) : Nat → Nat → Nat
  | 0, place => place
  | n + 1, place =>
    match chars[place]? with
    | none => place
    | some c => if c == '\n' && chars[place + 1]? == some '\n' then place
      else findGap chars n (place + 1)

/-- The next record of a source, and the place behind it. -/
def recordOf (separator : String) (s : Source) : Eval (Option (String × Nat)) := do
  let size := s.chars.size
  let text (start stop : Nat) : String := String.ofList (s.chars.extract start stop).toList
  match separator.toList with
  | [] =>
    let start := s.place + lineEnds s.chars size s.place 0
    if size ≤ start then return none
    let stop := findGap s.chars size start
    let cut := if stop == size && s.chars[size - 1]? == some '\n' then size - 1 else stop
    return some (text start cut, stop + lineEnds s.chars size stop 0)
  | [c] =>
    if size ≤ s.place then return none
    let stop := findChar s.chars c size s.place
    return some (text s.place stop, stop + 1)
  | _ =>
    if size ≤ s.place then return none
    let r ← regexOf separator
    let rec look : Nat → Nat → String × Nat
      | 0, _ => (text s.place size, size)
      | n + 1, place =>
        match r.find? s.chars place with
        | none => (text s.place size, size)
        | some m =>
          if m.start == m.stop then
            if size ≤ m.stop then (text s.place size, size) else look n (m.stop + 1)
          else (text s.place m.start, m.stop)
    return some (look (size + 1) s.place)

/-- The source of a text. -/
def sourceOf (s : String) (ended : ExitStatus := .code 0) : Source :=
  { chars := s.toList.toArray, ended }

/-- Open a file to read; `none` where that is not possible. -/
def open? (name : String) : Eval (Except FileError Source) := do
  let found ← (contentOf (if name == "/dev/stdin" then "-" else name) : Run _)
  match found with
  | .ok s => return .ok (sourceOf s)
  | .error e =>
    if e == .isDirectory || e == .badDescriptor then die ("read error (" ++ e.text ++ ")")
    return .error e

/-- The name and the value of an argument that sets a variable. -/
def assignment? (s : String) : Option (String × String) :=
  let cs := s.toList
  let isLetter (c : Char) := c.isAlpha || c == '_'
  let name := cs.takeWhile fun c => isLetter c || c.isDigit
  match cs.drop name.length with
  | '=' :: value =>
    if name.head?.any isLetter then some (String.ofList name, String.ofList value) else none
  | _ => none

/-- Open the next file among the arguments, or the input where there is none; `none` at their end.
The first argument bounds the number of arguments. -/
def openNext : Nat → Eval (Option Source)
  | 0 => return none
  | n + 1 => do
    let w ← get
    let count := (truncate? (numberOf (← shared "ARGC"))).getD 0
    let start (name : String) (s : Source) : Eval (Option Source) := do
      modify fun w =>
        { w with
          current := some s, hadFile := true
          values := (w.values.insert "FILENAME" (.text name)).insert "FNR" (.number 0.0) }
      return some s
    if count ≤ w.nextFile then
      if w.hadFile then return none
      match ← open? "-" with
      | .ok s => start "-" s
      | .error _ => return none
    else
      modify fun w => { w with nextFile := w.nextFile + 1 }
      let found ← onTable "ARGV" fun t => t.find? (.number w.nextFile)
      match found with
      | none => openNext n
      | some v =>
        let s ← textOf v
        if s.isEmpty then openNext n
        else
          match assignment? s with
          | some (name, value) =>
            store (.given (unescape value)) (.shared name)
            openNext n
          | none =>
            match ← open? s with
            | .ok source => start s source
            | .error e => die ("cannot open \"" ++ s ++ "\" (" ++ e.text ++ ")")

/-- Count a record. -/
def countRecord : Eval Unit := do
  for name in ["NR", "FNR"] do
    let n := numberOf (← shared name)
    modify fun w => { w with values := w.values.insert name (.number (n + 1.0)) }

/-- The next record of the files among the arguments.  The first argument bounds their number. -/
def nextRecord : Nat → Eval (Option String)
  | 0 => return none
  | n + 1 => do
    let source ←
      match (← get).current with
      | some s => pure (some s)
      | none => openNext (10000 : Nat)
    match source with
    | none => return none
    | some s =>
      match ← recordOf (← textOf (← shared "RS")) s with
      | some (text, place) =>
        modify fun w => { w with current := some { s with place } }
        countRecord
        return some text
      | none =>
        modify fun w => { w with current := none }
        nextRecord n

/-- The next record of the files among the arguments. -/
def nextOfFiles : Eval (Option String) :=
  nextRecord 10000

/-- The source of a name among those that are open, or the one that an action opens. -/
def sourceNamed (isCommand : Bool) (name : String) (begin_ : Eval (Except FileError Source)) :
    Eval (Option Source) := do
  let w ← get
  match (if isCommand then w.commands else w.files).lookup name with
  | some s => return some s
  | none =>
    match ← begin_ with
    | .ok s => return some s
    | .error _ => return none

/-- The next record of a file or a command: `none` where it cannot be opened, and no text at the
end. -/
def readNamed (interp : Interpreter) (isCommand : Bool) (name : String) :
    Eval (Option (Option String)) := do
  let source ← sourceNamed isCommand name do
    if isCommand then
      flushAll
      let (text, ended) ←
        (outputOf interp (shellWords name) (fun _ => Run.setStatus 127) : Run _)
      return .ok (sourceOf text ended)
    else open? name
  match source with
  | none => return none
  | some s =>
    let found ← recordOf (← textOf (← shared "RS")) s
    let s := { s with place := match found with
      | some (_, place) => place
      | none => s.chars.size }
    modify fun w =>
      if isCommand then { w with commands := (name, s) :: w.commands.filter (·.1 != name) }
      else { w with files := (name, s) :: w.files.filter (·.1 != name) }
    return some (found.map (·.1))

/-- Close a file or a command; minus one where there is none. -/
def close (interp : Interpreter) (name : String) : Eval Int := do
  let w ← get
  match w.sinks.find? (·.name == name) with
  | some s => closeSink interp s
  | none =>
    match w.commands.lookup name, w.files.lookup name with
    | some s, _ =>
      set { w with commands := w.commands.filter (·.1 != name) }
      return numberOfEnd s.ended
    | none, some _ =>
      set { w with files := w.files.filter (·.1 != name) }
      return 0
    | none, none => return -1

end Eval

end MonitorKeys.Shell.Tool.Awk
