import MonitorKeys.Event
import MonitorKeys.Shell.Source
import MonitorKeys.Shell.Tree

/-!
# Processes and the system around them

A command runs in a process, which has variables, descriptors and a directory of its own.  All
processes share one system: the tree of files, pipes, and the outputs that lead outside.  A process
that starts another one waits for it, so that there is one machine state: the process that runs now,
and the system.

`Run` is an action on that state.  It may stop before its end, and `Stop` says how far that reaches.
-/

namespace MonitorKeys.Shell

/-- What becomes of the bytes that are put on the standard output that leads outside. -/
inductive Outlet where
  /-- They arrive. -/
  | reader
  /-- Nobody reads them any more. -/
  | noReader
  /-- There is no room for them. -/
  | full
  deriving DecidableEq, Repr

/-- What a descriptor leads to. -/
inductive Target where
  /-- The node with this number, which was found at a path. -/
  | node (number : Nat) (path : String)
  /-- The pipe with this number. -/
  | pipe (number : Nat)
  /-- The standard output that leads outside. -/
  | output
  /-- The error output that leads outside. -/
  | errors
  deriving DecidableEq, Repr

/-- An open file, which several descriptors can share. -/
structure OpenFile where
  target : Target
  readable : Bool := false
  writable : Bool := false
  append : Bool := false
  place : Nat := 0
  deriving DecidableEq, Repr

/-- A pipe: what was written to it, and how much of that was read. -/
structure Pipe where
  content : ByteArray := .empty
  taken : Nat := 0

/-- A command that was started and is not waited for; it runs when it is waited for. -/
structure Job where
  process : Nat
  /-- How it ended; `none` while it sleeps. -/
  ended : Option ExitStatus
  body : Command
  /-- Whether something has waited for it. -/
  reported : Bool := false

/-- A variable. -/
structure Variable where
  name : String
  value : Option String
  exported : Bool := false
  fixed : Bool := false
  deriving DecidableEq, Repr

/-- What a process has for itself. -/
structure Process where
  number : Nat
  parent : Nat
  /-- The processes that wait for this one. -/
  waiting : List Nat := []
  /-- The name under which the program was started. -/
  name : String
  /-- Whether it runs a shell. -/
  isShell : Bool := true
  /-- Whether its messages are a bit longer than usual. -/
  wordy : Bool := false
  bindings : List Variable := []
  positional : List String := []
  functions : List (String × Command) := []
  aliases : List (String × String) := []
  documents : List (Nat × Document) := []
  /-- The open files behind descriptors. -/
  descriptors : List (Nat × Nat) := []
  directory : String := "/"
  /-- The options that are set, by their letters. -/
  options : List Char := []
  status : Nat := 0
  /-- The status of the commands whose output was put into a word last. -/
  outputStatus : Nat := 0
  /-- What is done on a signal, or at the end, which counts as signal zero. -/
  traps : List (Nat × String) := []
  /-- The signals whose commands are to be run. -/
  caught : List Nat := []
  mask : Nat := 0o022
  lastJob : Option Nat := none
  jobs : List Job := []
  line : Nat := 1
  /-- The number of the process that the parameter `$` names. -/
  shell : Nat
  /-- The builtin that runs, which messages mention. -/
  builtin : Option String := none
  loops : Nat := 0
  /-- The variables that the running functions have hidden, the innermost function first. -/
  hidden : List (List Variable) := []
  /-- The programs whose places are kept in mind, the last one first. -/
  tracked : List String := []
  /-- The argument that the builtin `getopts` reads next, and the place that it has reached within
  the one before. -/
  nextOption : Nat := 1
  optionPlace : Nat := 0

/-- What all processes share. -/
structure System where
  tree : Tree
  files : Array OpenFile := #[]
  pipes : Array Pipe := #[]
  output : ByteArray := .empty
  errors : ByteArray := .empty
  outlet : Outlet := .reader
  lastProcess : Nat
  /-- The signals that were sent to processes that wait. -/
  signals : List (Nat × Nat) := []
  /-- The time since the start, in milliseconds. -/
  clock : Nat := 0
  /-- When the running process is stopped. -/
  deadline : Option Nat := none
  /-- How many more commands are run. -/
  steps : Nat
  /-- Where the next arbitrary byte comes from. -/
  seed : Nat := 1

/-- The process that runs, and the system. -/
structure Machine where
  process : Process
  system : System

/-- Why an action stops before its end. -/
inductive Stop where
  /-- The process ends with its status. -/
  | leave
  /-- Something went wrong that ends the process, or only the builtin that it happened in. -/
  | failure
  /-- So many loops around end. -/
  | breaks (levels : Nat)
  /-- So many loops around but one end, and that one goes on with its next round. -/
  | continues (levels : Nat)
  /-- The function or the text that is run ends. -/
  | returns
  /-- A signal ends the process. -/
  | killed (signal : Nat)
  /-- The time is over. -/
  | expired
  deriving DecidableEq, Repr

/-- An action of a process. -/
abbrev Run := EStateM Stop Machine

/-- A thing that a shell can be asked to run. -/
inductive Task where
  /-- A command; `tested` says that its failure does not count as one of the shell. -/
  | command (c : Command) (tested : Bool)
  /-- A command that is all that a shell of its own does. -/
  | child (c : Command) (tested : Bool)
  /-- The commands of a text, in the shell that runs. -/
  | text (s : String) (tested : Bool)
  /-- A program of the system by its name, in the process that runs; the first word is the name
  under which it was started. -/
  | program (name : String) (words : List String)

/-- A way to run tasks. -/
abbrev Interpreter := Task → Run Unit

namespace Run

/-! ## Parts of the state -/

/-- The process that runs. -/
def process : Run Process := do
  return (← get).process

/-- The system. -/
def system : Run System := do
  return (← get).system

/-- Change the process that runs. -/
@[inline] def onProcess (f : Process → Process) : Run Unit :=
  modify fun m => { m with process := f m.process }

/-- Change the system. -/
@[inline] def onSystem (f : System → System) : Run Unit :=
  modify fun m => { m with system := f m.system }

/-- The status of the last command. -/
def status : Run Nat := do
  return (← process).status

/-- Set the status of the last command. -/
def setStatus (n : Nat) : Run Unit :=
  onProcess fun p => { p with status := n }

/-- Whether an option of the shell is set. -/
def isSet (option : Char) : Run Bool := do
  return (← process).options.contains option

/-! ## Signals -/

/-- Whether a signal does nothing to a process that does not ask for it. -/
def isHarmless (signal : Nat) : Bool :=
  signal == 0 || [17, 18, 23, 28].contains signal

/-- A signal reaches the process that runs.  It ends the process, unless it is ignored or there is
a command for it. -/
def receive (signal : Nat) : Run Unit := do
  let p ← process
  match if signal == 9 || signal == 19 then none else p.traps.lookup signal with
  | some "" => return
  | some _ =>
    if p.isShell then set { (← get) with process := { p with caught := p.caught ++ [signal] } }
  | none => unless isHarmless signal do throw (.killed signal)

/-- The signals that were sent to the process that runs while it waited reach it. -/
def receivePending : Run Unit := do
  let s ← system
  let mine := (← process).number
  let (due, later) := s.signals.partition (·.1 == mine)
  unless due.isEmpty do
    onSystem fun s => { s with signals := later }
    for (_, signal) in due do receive signal

/-- One of the commands that may be run is used up. -/
def spend (steps : Nat) : Run Unit := do
  let s ← system
  if s.steps < steps then throw .expired
  set { (← get) with system := { s with steps := s.steps - steps } }

/-- Let time pass. -/
def sleep (milliseconds : Nat) : Run Unit := do
  let s ← system
  let now := s.clock + milliseconds
  match s.deadline with
  | some stop =>
    if stop < now then
      onSystem fun s => { s with clock := stop }
      throw .expired
    onSystem fun s => { s with clock := now }
  | none => onSystem fun s => { s with clock := now }

/-! ## Descriptors -/

/-- The open file behind a descriptor, with its number. -/
def openFile? (descriptor : Nat) : Run (Option (Nat × OpenFile)) := do
  let m ← get
  return do
    let n ← m.process.descriptors.lookup descriptor
    let file ← m.system.files[n]?
    return (n, file)

/-- Make an open file. -/
def addFile (file : OpenFile) : Run Nat :=
  modifyGet fun m =>
    (m.system.files.size,
      { m with system := { m.system with files := m.system.files.push file } })

/-- Make a descriptor lead to an open file, or to nothing. -/
def setDescriptor (descriptor : Nat) (file : Option Nat) : Run Unit :=
  onProcess fun p =>
    let others := p.descriptors.filter (·.1 != descriptor)
    { p with
      descriptors :=
        match file with
        | some n => (descriptor, n) :: others
        | none => others }

/-- Set how far an open file has been read or written. -/
def moveTo (file place : Nat) : Run Unit :=
  onSystem fun s =>
    { s with files := s.files.modify file fun f => { f with place } }

/-- Make a pipe. -/
def addPipe : Run Nat :=
  modifyGet fun m =>
    (m.system.pipes.size,
      { m with system := { m.system with pipes := m.system.pipes.push {} } })

/-! ## Writing -/

/-- How many bytes a pipe takes from a shell, or from another program, before its reader is done for
good. -/
def pipeLimit (isShell : Bool) : Nat :=
  if isShell then 2 ^ 18 else 2 ^ 24

/-- Stored bytes with a text at a place. -/
def overwrite (content : ByteArray) (place : Nat) (s : String) : ByteArray :=
  if place == content.size then Raw.store content s
  else
    let gap := place - content.size
    let front := (List.replicate gap (0 : UInt8)).foldl ByteArray.push (content.extract 0 place)
    Raw.store front s ++ content.extract (place + s.length) content.size

/-- Nobody will read what was written. -/
def breakPipe : Run (Option FileError) := do
  receive 13
  return some .brokenPipe

/-- Put a text on an open file; the answer is what went wrong. -/
def writeTo (number : Nat) (file : OpenFile) (s : String) : Run (Option FileError) := do
  if s.isEmpty then return none
  if !file.writable then return some .badDescriptor
  match file.target with
  | .errors =>
    onSystem fun y => { y with errors := Raw.store y.errors s }
    return none
  | .output =>
    match (← system).outlet with
    | .reader =>
      onSystem fun y => { y with output := Raw.store y.output s }
      return none
    | .noReader => breakPipe
    | .full => return some .full
  | .pipe n =>
    if pipeLimit (← process).isShell < ((← system).pipes.getD n {}).content.size then breakPipe
    else
      onSystem fun y =>
        { y with pipes := y.pipes.modify n fun p => { p with content := Raw.store p.content s } }
      return none
  | .node n _ =>
    match (← system).tree.node? n with
    | some (.file content mode) =>
      let place := if file.append then content.size else file.place
      onSystem fun y =>
        { y with tree := y.tree.update n (.file (overwrite content place s) mode) }
      moveTo number (place + s.length)
      return none
    | some (.device .full) => return some .full
    | some (.device _) => return none
    | _ => return some .isDirectory

/-- Put a text on a descriptor; the answer is what went wrong. -/
def write (descriptor : Nat) (s : String) : Run (Option FileError) := do
  match ← openFile? descriptor with
  | some (n, file) => writeTo n file s
  | none => return some .badDescriptor

/-- Put a text on the error output. -/
def warn (s : String) : Run Unit := do
  let _ ← write 2 s

/-! ## Reading -/

/-- How much is read of what has no end. -/
def endless : Nat := 2 ^ 17

/-- Arbitrary bytes. -/
def arbitrary : Nat → Nat → String → String
  | 0, _, s => s
  | n + 1, seed, s =>
    let seed := (seed * 1103515245 + 12345) % 2 ^ 31
    arbitrary n seed (s.push (Char.ofNat (seed / 65536 % 256)))

/-- Read at most so many bytes from an open file, or all that is left.  A pipe that is read in part
loses only that. -/
def readFrom (number : Nat) (file : OpenFile) (count : Option Nat) :
    Run (Except FileError String) := do
  if !file.readable then return .error .badDescriptor
  match file.target with
  | .output | .errors => return .error .busyInput
  | .pipe n =>
    let pipe := (← system).pipes.getD n {}
    let s := Raw.load pipe.content pipe.taken (count.getD pipe.content.size)
    onSystem fun y =>
      { y with pipes := y.pipes.modify n fun p => { p with taken := p.taken + s.length } }
    return .ok s
  | .node n _ =>
    match (← system).tree.node? n with
    | some (.file content _) =>
      let s := Raw.load content file.place (count.getD content.size)
      moveTo number (file.place + s.length)
      return .ok s
    | some (.device .null) => return .ok ""
    | some (.device .random) =>
      let seed := (← system).seed
      onSystem fun y => { y with seed := seed + 1 }
      return .ok (arbitrary (count.getD endless) seed "")
    | some (.device _) =>
      return .ok (String.ofList (List.replicate (count.getD endless) '\x00'))
    | some (.program _) => return .ok "\x7fELF"
    | some (.directory _) => return .error .isDirectory
    | _ => return .error .invalid

/-- Read at most so many bytes from a descriptor, or all that is left. -/
def read (descriptor : Nat) (count : Option Nat := none) : Run (Except FileError String) := do
  match ← openFile? descriptor with
  | some (n, file) => readFrom n file count
  | none => return .error .badDescriptor

/-- Give back the last so many bytes that were read from a descriptor; `false` where that cannot
be done. -/
def giveBack (descriptor count : Nat) : Run Bool := do
  match ← openFile? descriptor with
  | some (n, file) =>
    match file.target with
    | .node _ _ =>
      moveTo n (file.place - count)
      return true
    | _ => return false
  | none => return false

/-- How many stored bytes from a place on stand before the first line end, at most so many. -/
def lineLength (content : ByteArray) : Nat → Nat → Nat → Nat
  | 0, _, count => count
  | n + 1, place, count =>
    if h : place < content.size then
      if content[place] == 10 then count else lineLength content n (place + 1) (count + 1)
    else count

/-- Read one line from a descriptor with its end, and nothing behind it. -/
def readLine (descriptor : Nat) : Run (Except FileError String) := do
  match ← openFile? descriptor with
  | some (n, file) =>
    let y ← system
    let length :=
      match file.target with
      | .pipe k =>
        let p := y.pipes.getD k {}
        lineLength p.content (p.content.size - p.taken) p.taken 0 + 1
      | .node k _ =>
        match y.tree.node? k with
        | some (.file content _) =>
          lineLength content (content.size - file.place) file.place 0 + 1
        | _ => endless
      | _ => 1
    readFrom n file (some length)
  | none => return .error .badDescriptor

/-! ## Opening -/

/-- The process's way to a path. -/
def resolve (path : String) (last : Bool := true) : Run (Except FileError Tree.Place) := do
  let m ← get
  return m.system.tree.resolve m.process.directory path last

/-- What a path leads to. -/
def node? (path : String) : Run (Option Node) := do
  let m ← get
  return m.system.tree.find? m.process.directory path

/-- Put a node at an absolute path without links. -/
def insertNode (path : String) (node : Node) : Run Unit :=
  onSystem fun y => { y with tree := y.tree.insert path node }

/-- The open file that opening a node gives. -/
def openNode (number : Nat) (path : String) (opening : Opening) : OpenFile :=
  { target := .node number path
    readable := opening == .read || opening == .readWrite
    writable := opening != .read
    append := opening == .append }

/-- Open a path; the answer is the number of the open file. -/
def openPath (path : String) (opening : Opening) : Run (Except FileError Nat) := do
  match ← resolve path with
  | .error e => return .error e
  | .ok place =>
    match place.number with
    | none =>
      if path.endsWith "/" && opening != .read then return .error .isDirectory
      if opening == .read then return .error .missing
      let number := (← system).tree.nodes.size
      insertNode place.path (.file .empty (0o666 - (0o666 &&& (← process).mask)))
      return .ok (← addFile (openNode number place.path opening))
    | some number =>
      match (← system).tree.node? number with
      | some (.file _ mode) =>
        if opening == .write || opening == .replace then
          onSystem fun y => { y with tree := y.tree.update number (.file .empty mode) }
        return .ok (← addFile (openNode number place.path opening))
      | some (.directory _) =>
        if opening == .read then return .ok (← addFile (openNode number place.path opening))
        return .error .isDirectory
      | some (.device (.descriptor fd)) =>
        match ← openFile? fd with
        | none => return .error .missing
        | some (n, file) =>
          match file.target with
          | .node k p =>
            match (← system).tree.node? k, opening with
            | some (.file _ mode), .write =>
              onSystem fun y => { y with tree := y.tree.update k (.file .empty mode) }
            | _, _ => pure ()
            return .ok (← addFile (openNode k p opening))
          | _ => return .ok n
      | some (.device .terminal) => return .error .noDevice
      | _ => return .ok (← addFile (openNode number place.path opening))

/-! ## Messages of the shell -/

/-- Say what is wrong, after the name of the shell, the line, and the builtin that runs. -/
def complain (text : String) : Run Unit := do
  let p ← process
  let builtin := p.builtin.elim "" (· ++ ": ")
  let line := if p.wordy then "line " ++ toString p.line else toString p.line
  warn (p.name ++ ": " ++ line ++ ": " ++ builtin ++ text ++ "\n")

/-- Say what is wrong and stop. -/
def fail {α : Type} (text : String) : Run α := do
  complain text
  setStatus 2
  throw .failure

/-! ## Variables -/

/-- The variable of a name. -/
def lookVariable (name : String) : Run (Option Variable) := do
  return (← process).bindings.find? (·.name == name)

/-- The value of a variable. -/
def value? (name : String) : Run (Option String) := do
  return (← lookVariable name).bind (·.value)

/-- Put a variable in the place of the one with its name. -/
def putVariable (v : Variable) : Run Unit :=
  onProcess fun p =>
    if p.bindings.any (·.name == v.name) then
      { p with bindings := p.bindings.map fun w => if w.name == v.name then v else w }
    else { p with bindings := v :: p.bindings }

/-- Give a variable a value. -/
def assign (name value : String) : Run Unit := do
  match ← lookVariable name with
  | some v =>
    if v.fixed then fail (name ++ ": is read only")
    putVariable { v with value := some value }
  | none => putVariable { name, value := some value, exported := ← isSet 'a' }
  if name == "OPTIND" then
    onProcess fun p => { p with nextOption := max 1 ((Raw.nat? value).getD 1), optionPlace := 0 }

/-- Say that a text is no name for a variable, if so. -/
def checkName (name : String) : Run Unit := do
  unless isName name do fail (name ++ ": bad variable name")

/-- Take a variable away. -/
def unset (name : String) : Run Unit := do
  checkName name
  match ← lookVariable name with
  | some v =>
    if v.fixed then fail (name ++ ": is read only")
    onProcess fun p => { p with bindings := p.bindings.filter (·.name != name) }
  | none => return

/-- The variables that programs see. -/
def environment : Run (List (String × String)) := do
  return (← process).bindings.filterMap fun v =>
    if v.exported then v.value.map (v.name, ·) else none

/-! ## Processes -/

/-- The end of a process that gives its status, of which only the lower eight bits are seen. -/
def exitStatus : Run ExitStatus := do
  return .code ((← status) % 256)

/-- Run an action in a process of its own, which begins as a copy of the one that runs, and wait for
its end. -/
def spawn (action : Run Unit) : Run ExitStatus := do
  let m ← get
  let outer := m.process
  let number := m.system.lastProcess + 1
  let inner : Process :=
    { outer with
      number, parent := outer.number, waiting := outer.number :: outer.waiting
      jobs := [], caught := []
      traps := outer.traps.filter (·.2.isEmpty) }
  set { process := inner, system := { m.system with lastProcess := number } : Machine }
  let ended : ExitStatus ←
    try
      action
      receivePending
      exitStatus
    catch
      | .killed signal => pure (.signal signal)
      | .expired =>
        onProcess fun _ => outer
        throw .expired
      | _ => exitStatus
  onProcess fun _ => outer
  receivePending
  return ended

/-- Run an action with an open file behind a descriptor, or with none. -/
def withDescriptor {α : Type} (descriptor : Nat) (file : Option Nat) (action : Run α) : Run α := do
  let saved := (← process).descriptors
  setDescriptor descriptor file
  try
    let a ← action
    onProcess fun p => { p with descriptors := saved }
    return a
  catch stop =>
    onProcess fun p => { p with descriptors := saved }
    throw stop

end Run

/-- The status of a command from the end of its process. -/
def statusOf : ExitStatus → Nat
  | .code n => n
  | .signal n => 128 + n

end MonitorKeys.Shell
