import MonitorKeys.Shell.Expand

/-!
# Redirections

A redirection makes a descriptor of the process lead somewhere else.  The words of all redirections
of a command are expanded before the first one is carried out.
-/

namespace MonitorKeys.Shell.Redirect

/-- A redirection whose words have been expanded. -/
inductive Change where
  | file (descriptor : Nat) (opening : Opening) (path : String)
  | duplicate (descriptor : Nat) (source : String)
  | document (descriptor : Nat) (text : String)
  deriving Repr

/-- Expand the words of a redirection. -/
def expanded (interp : Interpreter) : Redirection → Run Change
  | .file descriptor opening name =>
    return .file descriptor opening (← Expand.text interp name)
  | .duplicate descriptor source => do
    let text ← Expand.text interp source
    unless text == "-" || (text.length == 1 && text.toList.all Char.isDigit) do
      Run.fail "Syntax error: Bad fd number"
    return .duplicate descriptor text
  | .document descriptor number => do
    let document := ((← Run.process).documents.lookup number).getD []
    return .document descriptor (← Expand.text interp document)

/-- What is said about a file that cannot be opened. -/
def fileMessage (opening : Opening) (path : String) (e : FileError) : String :=
  let reads := opening == .read
  let reason :=
    if e == .missing || e == .notDirectory then
      if reads then "No such file" else "Directory nonexistent"
    else e.text
  (if reads then "cannot open " else "cannot create ") ++ path ++ ": " ++ reason

/-- Whether a file must not be written to because it exists already. -/
def isKept (opening : Opening) (path : String) : Run Bool := do
  if opening != .write || !(← Run.isSet 'C') then return false
  match ← Run.node? path with
  | some (.file _ _) => return true
  | _ => return false

/-- Carry out a redirection. -/
def Change.apply : Change → Run Unit
  | file descriptor opening path => do
    if ← isKept opening path then Run.fail (fileMessage opening path .taken)
    match ← Run.openPath path opening with
    | .ok number => Run.setDescriptor descriptor (some number)
    | .error e => Run.fail (fileMessage opening path e)
  | duplicate descriptor source => do
    match Raw.nat? source with
    | none => Run.setDescriptor descriptor none
    | some n =>
      match ← Run.openFile? n with
      | some (number, _) => Run.setDescriptor descriptor (some number)
      | none => Run.fail (source ++ ": " ++ FileError.text .badDescriptor)
  | document descriptor text => do
    let pipe ← Run.addPipe
    Run.onSystem fun y =>
      { y with pipes := y.pipes.modify pipe fun p => { p with content := Raw.store .empty text } }
    Run.setDescriptor descriptor (some (← Run.addFile { target := .pipe pipe, readable := true }))

/-- Carry out redirections; `false` where one of them fails. -/
def applyAll (changes : List Change) : Run Bool := do
  try
    changes.forM Change.apply
    return true
  catch
    | .failure => return false
    | stop => throw stop

/-- Run an action with redirections, or only carry out those that come before one that fails.  What
descriptors lead to is restored then, unless the action says that it stays so. -/
def during (interp : Interpreter) (redirections : List Redirection)
    (action : Bool → Run (Bool)) : Run Unit := do
  let changes ← redirections.mapM (expanded interp)
  let saved := (← Run.process).descriptors
  let restore : Run Unit := Run.onProcess fun p => { p with descriptors := saved }
  try
    if !(← action (← applyAll changes)) then restore
  catch stop =>
    restore
    throw stop

end MonitorKeys.Shell.Redirect
