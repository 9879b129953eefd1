import MonitorKeys.Shell.Lookup

/-!
# Starting programs

A path can lead to a program of the system, or to a text that another program is to run.  Shells and
other programs start programs here.
-/

namespace MonitorKeys.Shell.Launch

/-- Turn the process that runs into one that runs a program of the given name. -/
def become (name : String) : Run Unit :=
  Run.onProcess fun p =>
    { p with
      name, isShell := false, status := 0
      bindings := p.bindings.filter fun v => v.exported && v.value.isSome
      traps := p.traps.filter (·.2.isEmpty), caught := []
      functions := [], aliases := [], positional := [], options := [], tracked := []
      hidden := [], jobs := [], loops := 0, builtin := none }

/-- The program and its option that the first line of a text asks for. -/
def interpreterOf? (content : ByteArray) : Option (List String) :=
  let line := ((Raw.load content 0 256).toList.takeWhile (· != '\n'))
  match line with
  | '#' :: '!' :: cs =>
    let isBlank (c : Char) := c == ' ' || c == '\t'
    let cs := cs.dropWhile isBlank
    let path := cs.takeWhile (!isBlank ·)
    let rest := (cs.drop path.length).dropWhile isBlank
    let option := (rest.reverse.dropWhile isBlank).reverse
    if path.isEmpty then none
    else some (String.ofList path :: if option.isEmpty then [] else [String.ofList option])
  | _ => none

/-- Run the file that a path leads to in the process, with words of which the first one is the name
that it gets; the answer says why that is not possible.  The first argument bounds the number of
texts that ask for each other. -/
def executeFrom (interp : Interpreter) : Nat → String → List String → Run (Option FileError)
  | 0, _, _ => return some .loop
  | n + 1, path, words => do
    match ← Run.resolve path with
    | .error e => return some e
    | .ok place =>
      match place.number.bind (← Run.system).tree.node? with
      | none => return some .missing
      | some (.program name) =>
        become (words.headD name)
        interp (.program name words)
        return none
      | some (.file content mode) =>
        if mode &&& 0o111 == 0 then return some .denied
        match interpreterOf? content with
        | some (shell :: option) =>
          executeFrom interp n shell (shell :: option ++ path :: words.tail)
        | _ =>
          become path
          interp (.program "sh" ("sh" :: path :: words.tail))
          return none
      | some _ => return some .denied

/-- Run the file that a path leads to in the process; the answer says why that is not possible. -/
def execute (interp : Interpreter) (path : String) (words : List String) :
    Run (Option FileError) :=
  executeFrom interp 5 path words

/-- The status and the words for a program that cannot be started. -/
def failure (e : FileError) : Nat × String :=
  if e == .missing || e == .notDirectory then (127, "not found")
  else if e == .loop then (127, e.text)
  else (126, e.text)

/-- The path of a program by its name, as programs other than shells look for it, or why there is
none. -/
def find (name : String) : Run (Except FileError String) := do
  if name.isEmpty then return .error .missing
  if name.contains '/' then return .ok name
  let path := (← Run.value? "PATH").getD "/bin:/usr/bin"
  match ← Lookup.program name (some path) with
  | .ok found => return .ok found
  | .error denied => return .error (if denied then .denied else .missing)

/-- Run a program in a process of its own and wait for it; `none` where it cannot be started, and
then `complain` says so in that process, whose status it sets. -/
def run (interp : Interpreter) (words : List String) (complain : FileError → Run Unit) :
    Run ExitStatus :=
  Run.spawn do
    match ← find (words.headD "") with
    | .error e => complain e
    | .ok path =>
      match ← execute interp path words with
      | some e => complain e
      | none => return

end MonitorKeys.Shell.Launch
