import MonitorKeys.Shell.Interpret
import MonitorKeys.Sink.Command

/-!
# The shell that runs key commands

A `Launcher` that interprets shell commands instead of starting processes.  Its `World` is what
such commands can see of the system: the environment variables, among them the search path on which
the shell itself is found, and the tree of files, which keeps what commands leave behind.
-/

namespace MonitorKeys.Shell

open Text (Bytes)

/-- What shell commands see of the system. -/
structure World where
  /-- The environment variables. -/
  environment : List (String × String) := [("HOME", "/root"), ("PATH", Lookup.usualPath)]
  /-- The files that exist. -/
  tree : Tree := Tree.fresh Interpret.programs
  /-- The standard output that children inherit. -/
  outlet : Outlet := .reader

namespace World

/-- What a file holds. -/
def file (world : World) (path : String) : Bytes :=
  match world.tree.find? "/" path with
  | some (.file content _) => content.toList
  | _ => []

/-- The world with a file that holds the given bytes. -/
def withFile (world : World) (path : String) (bytes : Bytes) : World :=
  { world with tree := world.tree.insert path (.file bytes.toByteArray 0o644) }

/-- The world with one more environment variable. -/
def withVariable (world : World) (name value : String) : World :=
  { world with
    environment := (name, value) :: world.environment.filter (·.1 ≠ name) }

/-- Look for the shell in directories one after the other; without it the last failure counts. -/
def seekShell (tree : Tree) : List String → FileError → Except FileError Unit
  | [], e => .error e
  | directory :: rest, _ =>
    match tree.resolve "/" (Lookup.joined directory "sh") with
    | .error e => seekShell tree rest e
    | .ok place =>
      match place.number.bind tree.node? with
      | some (.program _) => .ok ()
      | some _ => seekShell tree rest .denied
      | none => seekShell tree rest .missing

/-- The directories in which the shell is looked for. -/
def searchPath (world : World) : List String :=
  ((world.environment.lookup "PATH").getD "/bin:/usr/bin").splitOn ":"

/-- Look for the shell on the search path. -/
def findShell (world : World) : Except FileError Unit :=
  seekShell world.tree world.searchPath .missing

end World

/-- How many bytes a pipe holds that nobody has read. -/
def pipeCapacity : Nat := 65536

/-- How many commands a child may run. -/
def stepLimit : Nat := 3000000

/-- The process that starts a shell: its input is a pipe with some bytes, and its outputs lead
outside. -/
def machine (input : Bytes) (world : World) : Machine :=
  let inputFile : OpenFile := { target := .pipe 0, readable := true }
  let bindings := world.environment.map fun (name, value) =>
    ({ name := Raw.ofText name, value := some (Raw.ofText value), exported := true } : Variable)
  { process :=
      { number := 1001, parent := 1000, shell := 1001, name := "sh", bindings
        descriptors := [(0, 0), (1, 1), (2, 2)] }
    system :=
      { tree := world.tree, lastProcess := 1001, steps := stepLimit, outlet := world.outlet
        files := #[inputFile, { target := .output, readable := true, writable := true },
          { target := .errors, readable := true, writable := true }]
        pipes := #[{ content := input.toByteArray }] } }

/-- Run a shell with the given words to its end. -/
def run (words : List String) (m : Machine) : ExitStatus × Machine :=
  let action : Run ExitStatus := do
    try
      Interpret.nested Interpret.depth (.program "sh" words)
      Run.exitStatus
    catch
      | .killed signal => return .signal signal
      | .expired => return .signal 9
      | _ => Run.exitStatus
  match action.run m with
  | .ok ended m => (ended, m)
  | .error _ m => (.code (m.process.status % 256), m)

/-- The end of a shell that has run a command. -/
def childOf (arguments : List String) (input : Bytes) (world : World) : Child × World :=
  let (ended, m) := run (arguments.map Raw.ofText) (machine input world)
  let unread := (m.system.pipes[0]?).elim 0 fun pipe => pipe.content.size - pipe.taken
  let refusal :=
    if pipeCapacity < unread then some (OutputFailure.system 32).cause else none
  (.ended refusal ended m.system.output.toList m.system.errors.toList,
    { world with tree := m.system.tree })

/-- Start a shell with the given arguments.  A command with a null character cannot be handed to
any program. -/
def start (arguments : List String) (input : Bytes) (world : World) : Child × World :=
  if arguments.any fun a => a.toList.contains '\x00' then
    (.failed "nul byte found in provided data", world)
  else
    match world.findShell with
    | .error e => (.failed (OutputFailure.system e.code).cause, world)
    | .ok () => childOf arguments input world

/-- The launcher that interprets shell commands. -/
def launcher : Launcher World :=
  ⟨start⟩

end MonitorKeys.Shell
