import MonitorKeys.Shell.Execute

/-!
# A shell from its start to its end

The program `sh` takes the commands from its arguments, from a file, or from its input.  What it is
told to do at its end is done before its process ends.
-/

namespace MonitorKeys.Shell.Session

/-- What a shell is asked to run: options have been set, and words are left. -/
structure Request where
  /-- Whether the commands stand in the first word. -/
  fromWord : Bool := false
  /-- Whether the commands come from the input in any case. -/
  fromInput : Bool := false
  words : List String

/-- What the letters of one word set, given the words left and the request so far. -/
def letters (on : Bool) : List Char → Request → Run Request
  | [], request => return request
  | 'c' :: cs, request => letters on cs { request with fromWord := true }
  | 'o' :: cs, request => do
    match request.words with
    | name :: rest =>
      Builtin.setNamed on name
      letters on cs { request with words := rest }
    | [] => letters on cs request
  | 's' :: cs, request => letters on cs { request with fromInput := on }
  | 'l' :: cs, request => letters on cs request
  | c :: cs, request => do
    Builtin.setLetter on c
    letters on cs request

/-- What the arguments ask for.  The first argument bounds the number of words. -/
def requestFrom : Nat → Request → Run Request
  | 0, request => return request
  | n + 1, request => do
    match request.words with
    | [] => return request
    | word :: rest =>
      match word.toList with
      | ['-'] | ['-', '-'] => return { request with words := rest }
      | '-' :: cs => requestFrom n (← letters true cs { request with words := rest })
      | '+' :: cs => requestFrom n (← letters false cs { request with words := rest })
      | _ => return request

/-- The variables that every shell has, unless it gets others from outside. -/
def usualVariables (p : Process) : List Variable :=
  let variable_ (name value : String) : Variable := { name, value := some value }
  [variable_ "IFS" " \t\n", variable_ "OPTIND" "1", variable_ "PPID" (toString p.parent),
   variable_ "PS1" "# ", variable_ "PS2" "> ", variable_ "PS4" "+ "]

/-- Turn the process into a shell without anything of its own. -/
def become (name : String) : Run Unit :=
  Run.onProcess fun p =>
    let usual := usualVariables p
    let inherited := p.bindings.filter fun v => isName v.name && !usual.any (·.name == v.name)
    let path : List Variable :=
      if inherited.any (·.name == "PATH") then []
      else [{ name := "PATH", value := some Lookup.usualPath }]
    let directory : Variable := { name := "PWD", value := some p.directory, exported := true }
    { p with
      name, isShell := true, wordy := Tree.baseName name == "bash", shell := p.number, status := 0, line := 0, builtin := none
      bindings := usual ++ path ++ [directory] ++ inherited.filter (·.name != "PWD")
      options := [], positional := [], nextOption := 1, optionPlace := 0, lastJob := none }

/-- The text of a file of commands. -/
def script (path : String) : Run String := do
  match ← Run.openPath path .read with
  | .error _ => Run.fail ("cannot open " ++ path ++ ": No such file")
  | .ok file =>
    match (← Run.system).files[file]? with
    | some opened => return ((← Run.readFrom file opened none).toOption).getD ""
    | none => return ""

/-- Run what a shell is asked to. -/
def serve (interp : Interpreter) (request : Request) : Run Unit := do
  let name (s : String) : Run Unit := Run.onProcess fun p => { p with name := s }
  match request.fromWord, request.words with
  | true, [] => Run.fail "-c requires an argument"
  | true, [text] => Execute.text interp text false
  | true, text :: first :: rest =>
    name first
    Builtin.setPositional rest
    Execute.text interp text false
  | false, words =>
    match if request.fromInput then none else words.head? with
    | some path =>
      let text ← script path
      name path
      Builtin.setPositional words.tail
      Execute.text interp text false
    | none =>
      Builtin.setPositional words
      Execute.text interp ((← Run.read 0).toOption.getD "") false

/-- Run the commands that were not waited for. -/
def finishJobs (interp : Interpreter) : Run Unit := do
  for job in (← Run.process).jobs do
    if job.ended.isNone then
      let _ ← Run.spawn (interp (.child job.body false))

/-- The program `sh`; the first word is the name under which it was started. -/
def shell (interp : Interpreter) (words : List String) : Run Unit := do
  become (words.headD "sh")
  Execute.whole interp do
    serve interp (← requestFrom (words.length + 1) { words := words.tail })
  let status ← Run.status
  finishJobs interp
  Run.setStatus status

end MonitorKeys.Shell.Session
