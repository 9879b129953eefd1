import MonitorKeys.Shell.Builtin.Directory
import MonitorKeys.Shell.Tool.Copying

/-!
# Changing the tree of files

Programs that make, copy, move and remove files, directories and links: `rm`, `rmdir`, `unlink`,
`mkdir`, `touch`, `cp`, `mv`, `ln`, `chmod`, `mktemp` and `truncate`.
-/

namespace MonitorKeys.Shell.Tool.Files

/-! ## Places -/

/-- The node of a place. -/
def nodeOf (place : Tree.Place) : Run (Option Node) := do
  return place.number.bind (← Run.system).tree.node?

/-- What a path leads to without following a link at its end, with its place. -/
def find (path : String) (last : Bool := false) : Run (Except FileError (Tree.Place × Node)) := do
  match ← Run.resolve path last with
  | .error e => return .error e
  | .ok place =>
    match ← nodeOf place with
    | some node => return .ok (place, node)
    | none => return .error .missing

/-- Whether a path leads to a directory. -/
def isDirectory (path : String) : Run Bool := do
  match ← Run.node? path with
  | some (.directory _) => return true
  | _ => return false

/-- Whether a path lies in a directory, or is the directory itself. -/
def isWithin (directory path : String) : Bool :=
  path == directory || path.startsWith (if directory == "/" then "/" else directory ++ "/")

/-- Take a path and all below it away. -/
def eraseBelow (path : String) : Run Unit :=
  Run.onSystem fun y =>
    { y with tree := { y.tree with names := y.tree.names.filter fun n => !isWithin path n.1 } }

/-- Take a path away. -/
def erase (path : String) : Run Unit :=
  Run.onSystem fun y => { y with tree := y.tree.erase path }

/-- Put a number under a path. -/
def link (path : String) (number : Nat) : Run Unit :=
  Run.onSystem fun y =>
    { y with
      tree := { y.tree with names := (path, number) :: y.tree.names.filter (·.1 != path) } }

/-- A path with the name of a file behind it. -/
def below (directory name : String) : String :=
  if directory.endsWith "/" then directory ++ name else directory ++ "/" ++ name

/-- The last part of a path as it is written. -/
def lastPart (path : String) : String :=
  Tree.baseName path

/-! ## Removing -/

/-- The words for a kind of node. -/
def kindWords : Node → String
  | .file content _ => if content.size == 0 then "regular empty file" else "regular file"
  | .directory _ => "directory"
  | .link _ => "symbolic link"
  | .device (.descriptor _) => "symbolic link"
  | .device _ => "character special file"
  | .program _ => "regular file"

/-- Whether the answer to a question is yes. -/
def confirmed (question : String) : Run Bool := do
  Run.warn ((← Run.process).name ++ ": " ++ question ++ "? ")
  let answer := (← Run.readLine 0).toOption.getD ""
  return answer.startsWith "y" || answer.startsWith "Y"

/-- Remove one path for `rm`. -/
def removeOne (given : Given) (path : String) : Run Unit := do
  let recursive := given.has 'r' || given.has 'R'
  let wrong (e : FileError) : Run Unit := note ("cannot remove " ++ quote path ++ ": " ++ e.text)
  let part := (path.splitOn "/").filter (· != "") |>.getLast?
  if recursive && (part == some "." || part == some "..") then
    note ("refusing to remove '.' or '..' directory: skipping " ++ quote path)
  else
    match ← find path with
    | .error e =>
      unless given.has 'f' && (e == .missing || e == .notDirectory) do wrong e
    | .ok (place, node) =>
      let remove (act : Run Unit) : Run Unit := do
        if given.lastOf? "if" == some 'i' then
          unless ← confirmed ("remove " ++ kindWords node ++ " " ++ quote path) do return
        act
        if given.has 'v' then
          print ((match node with
            | .directory _ => "removed directory "
            | _ => "removed ") ++ quote path ++ "\n")
      match node with
      | .directory _ =>
        if recursive then
          if place.path == "/" then
            complain "it is dangerous to operate recursively on '/'"
            note "use --no-preserve-root to override this failsafe"
          else remove (eraseBelow place.path)
        else if given.has 'd' then
          if ((← Run.system).tree.list place.path).isEmpty then remove (erase place.path)
          else wrong .notEmpty
        else wrong .isDirectory
      | _ => remove (erase place.path)

/-- `rm`. -/
def rm : Tool := fun _ words => do
  let given ← Options.read
    { flags := "dfiIrRvP", maybes := "O"
      long := [("dir", 'd'), ("force", 'f'), ("recursive", 'r'), ("verbose", 'v'),
        ("interactive", 'O'), ("one-file-system", 'P'), ("no-preserve-root", 'P'),
        ("preserve-root", 'O')] } words.tail
  if given.operands.isEmpty then
    if given.has 'f' then leave 0
    misuse "missing operand"
  given.operands.forM (removeOne given)

/-- `unlink`. -/
def unlink : Tool := fun _ words => do
  let given ← Options.read {} words.tail
  match given.operands with
  | [] => misuse "missing operand"
  | _ :: extra :: _ => misuse ("extra operand " ++ quote extra)
  | [path] =>
    match ← find path with
    | .error e => die ("cannot unlink " ++ quote path ++ ": " ++ e.text)
    | .ok (_, .directory _) =>
      die ("cannot unlink " ++ quote path ++ ": " ++ FileError.text .isDirectory)
    | .ok (place, _) => erase place.path

/-- Remove an empty directory, and then those above it where that is asked for.  The first argument
bounds their number. -/
def removeDirectories (given : Given) (what : String) : Nat → String → Run Unit
  | 0, _ => return
  | n + 1, path => do
    let wrong (e : FileError) : Run Unit :=
      unless given.has 'i' && e == .notEmpty do
        note ("failed to remove " ++ what ++ quote path ++ ": " ++ e.text)
    if given.has 'v' then print ("rmdir: removing directory, " ++ quote path ++ "\n")
    match ← find path with
    | .error e => wrong e
    | .ok (place, .directory _) =>
      if !((← Run.system).tree.list place.path).isEmpty then wrong .notEmpty
      else
        erase place.path
        let above := "/".intercalate (path.splitOn "/").dropLast
        if given.has 'p' && !above.isEmpty then
          removeDirectories given "directory " n above
    | .ok _ => wrong .notDirectory

/-- `rmdir`. -/
def rmdir : Tool := fun _ words => do
  let given ← Options.read
    { flags := "pvi"
      long := [("parents", 'p'), ("verbose", 'v'), ("ignore-fail-on-non-empty", 'i')] } words.tail
  if given.operands.isEmpty then misuse "missing operand"
  for path in given.operands do removeDirectories given "" (path.length + 1) path

/-! ## Making -/

/-- Make a directory; where that is asked for, those above it as well. -/
def makeDirectory (given : Given) (mode : Nat) (path : String) : Run Unit := do
  let said (path : String) : Run Unit :=
    if given.has 'v' then print ("mkdir: created directory " ++ quote path ++ "\n") else return
  let wrong (path : String) (e : FileError) : Run Unit :=
    note ("cannot create directory " ++ quote path ++ ": " ++ e.text)
  let make (path : String) (mode : Nat) (strict : Bool) : Run Bool := do
    match ← Run.resolve (if path.endsWith "/" then (path.dropEnd 1).toString else path) with
    | .error e =>
      wrong path e
      return false
    | .ok place =>
      match ← nodeOf place with
      | none =>
        Run.insertNode place.path (.directory mode)
        said path
        return true
      | some (.directory _) =>
        if strict then
          wrong path .taken
          return false
        return true
      | some _ =>
        wrong path .taken
        return false
  if path.isEmpty then wrong path .missing
  else if !given.has 'p' then
    let _ ← make path mode true
  else
    let start := if path.startsWith "/" then "/" else ""
    let parts := (path.splitOn "/").filter (· != "")
    let mut fine := true
    for i in List.range parts.length do
      if fine then
        let part := start ++ "/".intercalate (parts.take (i + 1))
        fine ← make part (if i + 1 == parts.length then mode else 0o755) false

/-- `mkdir`. -/
def mkdir : Tool := fun _ words => do
  let given ← Options.read
    { flags := "pvZ", values := "m"
      long := [("mode", 'm'), ("parents", 'p'), ("verbose", 'v')] } words.tail
  if given.operands.isEmpty then misuse "missing operand"
  let usual := 0o777 - (0o777 &&& (← Run.process).mask)
  let mode ←
    match given.last? 'm' with
    | none => pure usual
    | some text =>
      match Builtin.mode? 0o777 text with
      | some m => pure m
      | none => die ("invalid mode " ++ quote text)
  given.operands.forM (makeDirectory given mode)

/-- `touch`. -/
def touch : Tool := fun _ words => do
  let given ← Options.read
    { flags := "acfmh", values := "drt"
      long := [("no-create", 'c'), ("date", 'd'), ("reference", 'r'), ("no-dereference", 'h')] }
    words.tail
  if given.operands.isEmpty then misuse "missing file operand"
  for path in given.operands do
    if path != "-" then
      match ← Run.resolve path with
      | .error e => note ("cannot touch " ++ quote path ++ ": " ++ e.text)
      | .ok place =>
        if place.number.isNone && !given.has 'c' then
          match ← Run.openPath path .append with
          | .ok _ => pure ()
          | .error e => note ("cannot touch " ++ quote path ++ ": " ++ e.text)

/-- The letters of a file name that nobody has taken. -/
def freshLetters (count seed : Nat) : String :=
  let letters := "abcdefghijklmnopqrstuvwxyzABCDEFGHIJKLMNOPQRSTUVWXYZ0123456789".toList.toArray
  String.ofList ((Run.arbitrary count seed "").toList.map fun c =>
    letters.getD (c.toNat % letters.size) 'a')

/-- `mktemp`. -/
def mktemp : Tool := fun _ words => do
  let given ← Options.read
    { flags := "dqut", values := "pS", maybes := "T"
      long := [("directory", 'd'), ("dry-run", 'u'), ("quiet", 'q'), ("suffix", 'S'),
        ("tmpdir", 'T')] } words.tail
  match given.operands with
  | _ :: _ :: _ => misuse "too many templates"
  | _ => pure ()
  let template := given.operands.headD "tmp.XXXXXXXXXX"
  let inTemp := given.operands.isEmpty || given.has 't' || given.has 'p' || given.has 'T'
  let cs := template.toList.reverse
  let suffix := (cs.takeWhile (· != 'X')).reverse
  let body := cs.drop suffix.length
  let count := (body.takeWhile (· == 'X')).length
  if suffix.contains '/' then
    die ("invalid suffix " ++ quote (String.ofList suffix) ++ ", contains directory separator")
  if count < 3 then die ("too few X's in template " ++ quote template)
  let usual := ((← Run.value? "TMPDIR").filter (· != "")).getD "/tmp"
  let directory := (given.last? 'p').getD usual
  let path (middle : String) : String :=
    let name := String.ofList (body.drop count).reverse ++ middle ++ String.ofList suffix
      ++ (given.last? 'S').getD ""
    if inTemp then below directory name else name
  let seed := (← Run.system).seed
  Run.onSystem fun y => { y with seed := seed + 1 }
  let made := path (freshLetters count (seed * 7919))
  unless given.has 'u' do
    match ← Run.resolve made with
    | .error e =>
      if given.has 'q' then leave 1
      die ("failed to create " ++ (if given.has 'd' then "directory" else "file")
        ++ " via template "
        ++ quote (path (String.ofList (List.replicate count 'X'))) ++ ": " ++ e.text)
    | .ok place =>
      Run.insertNode place.path
        (if given.has 'd' then .directory 0o700 else .file .empty 0o600)
  print (made ++ "\n")

/-- `truncate`. -/
def truncate : Tool := fun _ words => do
  let given ← Options.read
    { flags := "co", values := "sr"
      long := [("no-create", 'c'), ("size", 's'), ("reference", 'r')] } words.tail
  let some size := given.last? 's'
    | misuse "you must specify either '--size' or '--reference'"
  if given.operands.isEmpty then misuse "missing file operand"
  let sign := (size.toList.head?.filter "+-<>/%".toList.contains)
  let some n := sized? (if sign.isSome then (size.drop 1).toString else size)
    | die ("Invalid number: " ++ quote size)
  for path in given.operands do
    let wrong (e : FileError) : Run Unit :=
      note ("cannot open " ++ quote path ++ " for writing: " ++ e.text)
    if !(given.has 'c' && (← Run.node? path).isNone) then
      match ← Run.openPath path .append with
      | .error e => wrong e
      | .ok _ =>
        match ← find path true with
        | .ok ({ number := some k, .. }, .file content mode) =>
          let old := content.size
          let length :=
            match sign with
            | some '+' => old + n
            | some '-' => old - n
            | some '<' => min old n
            | some '>' => max old n
            | some '/' => if n == 0 then old else old / n * n
            | some '%' => if n == 0 then old else (old + n - 1) / n * n
            | _ => n
          let front := content.extract 0 (min old length)
          let whole := (List.replicate (length - old) (0 : UInt8)).foldl ByteArray.push front
          Run.onSystem fun y => { y with tree := y.tree.update k (.file whole mode) }
        | _ => pure ()

/-! ## Copying and moving -/

/-- Where files go: into a directory, or to a path of their own. -/
inductive Destination where
  | into (directory : String)
  | path (path : String)

/-- The sources and the destination that arguments give. -/
def destinationOf (given : Given) : Run (List String × Destination) := do
  match given.last? 't', given.operands with
  | some directory, sources =>
    if sources.isEmpty then misuse "missing file operand"
    return (sources, .into directory)
  | none, [] => misuse "missing file operand"
  | none, [only] => misuse ("missing destination file operand after " ++ quote only)
  | none, operands =>
    let target := operands.getLast?.getD ""
    let sources := operands.dropLast
    if !given.has 'T' && (← isDirectory target) then return (sources, .into target)
    if 1 < sources.length then
      let e : FileError :=
        match ← Run.resolve target with
        | .error e => e
        | .ok { number := some _, .. } => .notDirectory
        | .ok _ => .missing
      die ("target " ++ quote target ++ ": " ++ e.text)
    return (sources, .path target)

/-- The path that a source goes to. -/
def Destination.pathFor (d : Destination) (source : String) : String :=
  match d with
  | into directory => below directory (lastPart source)
  | path p => p

/-- Copy a directory and all in it. -/
def copyTree (source target : String) : Run Unit := do
  let tree := (← Run.system).tree
  let inside := tree.names.filter fun n => isWithin source n.1
  for (path, number) in inside.reverse do
    if let some node := tree.node? number then
      Run.insertNode (target ++ (path.drop source.length).toString) node

/-- Copy one file for `cp`. -/
def copyOne (given : Given) (source target : String) : Run Unit := do
  let recursive := given.has 'r' || given.has 'R' || given.has 'a'
  match ← find source (!recursive) with
  | .error e => note ("cannot stat " ++ quote source ++ ": " ++ e.text)
  | .ok (place, node) =>
    let said : Run Unit :=
      if given.has 'v' then print (quote source ++ " -> " ++ quote target ++ "\n") else return
    let old ← Run.resolve target
    let same := (old.toOption.bind (·.number)).any fun n => some n == place.number
    match node with
    | .directory _ =>
      if !recursive then note ("-r not specified; omitting directory " ++ quote source)
      else
        match old with
        | .error e => note ("cannot create directory " ++ quote target ++ ": " ++ e.text)
        | .ok there =>
          if isWithin place.path there.path then
            note ("cannot copy a directory, " ++ quote source ++ ", into itself, " ++ quote target)
          else
            said
            copyTree place.path there.path
    | _ =>
      if same then note (quote source ++ " and " ++ quote target ++ " are the same file")
      else if given.has 'n' && (old.toOption.bind (·.number)).isSome then return
      else
        match ← contentOf (if source == "-" then "./-" else source) with
        | .error e => note ("cannot open " ++ quote source ++ " for reading: " ++ e.text)
        | .ok text =>
          match ← Run.node? target with
          | some (.directory _) =>
            note ("cannot overwrite directory " ++ quote target ++ " with non-directory")
          | existing =>
            let creates := existing.isNone
            if creates && target.endsWith "/" then
              note ("cannot create regular file " ++ quote target ++ ": "
                ++ FileError.text .notDirectory)
            else
            match ← save target text with
            | some .full => note ("error writing " ++ quote target ++ ": " ++ FileError.text .full)
            | some e => note ("cannot create regular file " ++ quote target ++ ": " ++ e.text)
            | none =>
              said
              let mode := match node with
                | .file _ mode => mode
                | .program _ => 0o755
                | _ => 0o644
              match creates, ← find target true with
              | true, .ok ({ number := some k, .. }, .file content _) =>
                let mask := (← Run.process).mask
                let mode :=
                  if given.has 'p' || given.has 'a' then mode else mode - (mode &&& mask)
                Run.onSystem fun y => { y with tree := y.tree.update k (.file content mode) }
              | _, _ => pure ()

/-- `cp`. -/
def cp : Tool := fun _ words => do
  let given ← Options.read
    { flags := "abdfHilLnPpRrsTuvxZ", values := "tS", maybes := "O"
      long := [("archive", 'a'), ("force", 'f'), ("interactive", 'i'), ("no-clobber", 'n'),
        ("recursive", 'r'), ("verbose", 'v'), ("target-directory", 't'),
        ("no-target-directory", 'T'), ("update", 'u'), ("preserve", 'O'), ("link", 'l'),
        ("symbolic-link", 's')] } words.tail
  let (sources, d) ← destinationOf given
  for source in sources do copyOne given source (d.pathFor source)

/-- Move one file for `mv`. -/
def moveOne (given : Given) (source target : String) : Run Unit := do
  match ← find source with
  | .error e => note ("cannot stat " ++ quote source ++ ": " ++ e.text)
  | .ok (place, node) =>
    match ← Run.resolve target false with
    | .error e =>
      note ("cannot move " ++ quote source ++ " to " ++ quote target ++ ": " ++ e.text)
    | .ok there =>
      if there.path == place.path then
        note (quote source ++ " and " ++ quote target ++ " are the same file")
      else if given.has 'n' && there.number.isSome then return
      else
        let isTree := match node with
          | .directory _ => true
          | _ => false
        match ← nodeOf there, isTree with
        | some (.directory _), false =>
          note ("cannot overwrite directory " ++ quote target ++ " with non-directory")
        | some (.file _ _), true =>
          note ("cannot overwrite non-directory " ++ quote target ++ " with directory "
            ++ quote source)
        | _, _ =>
          if isTree && isWithin place.path there.path then
            note ("cannot move " ++ quote source ++ " to a subdirectory of itself, " ++ quote target)
          else
            eraseBelow there.path
            let move (path : String) : String :=
              if isWithin place.path path then
                there.path ++ (path.drop place.path.length).toString
              else path
            Run.onSystem fun y =>
              { y with
                tree := { y.tree with names := y.tree.names.map fun (p, n) => (move p, n) } }
            if given.has 'v' then
              print ("renamed " ++ quote source ++ " -> " ++ quote target ++ "\n")

/-- `mv`. -/
def mv : Tool := fun _ words => do
  let given ← Options.read
    { flags := "bfinTuvZ", values := "tS"
      long := [("force", 'f'), ("interactive", 'i'), ("no-clobber", 'n'), ("verbose", 'v'),
        ("target-directory", 't'), ("no-target-directory", 'T'), ("update", 'u')] } words.tail
  let (sources, d) ← destinationOf given
  for source in sources do moveOne given source (d.pathFor source)

/-- Make one link for `ln`. -/
def linkOne (given : Given) (source target : String) : Run Unit := do
  let symbolic := given.has 's'
  let number? : Except FileError (Option Nat) ←
    if symbolic then pure (.ok none)
    else do
      match ← find source with
      | .error e => pure (.error e)
      | .ok (place, _) => pure (.ok place.number)
  let kind := if symbolic then "symbolic" else "hard"
  match number? with
  | .error e => note ("failed to access " ++ quote source ++ ": " ++ e.text)
  | .ok number? =>
    match ← Run.resolve target false with
    | .error e => note ("failed to create " ++ kind ++ " link " ++ quote target ++ ": " ++ e.text)
    | .ok there =>
      if there.number.isSome && !given.has 'f' then
        note ("failed to create " ++ kind ++ " link " ++ quote target ++ ": "
          ++ FileError.text .taken)
      else
        match number? with
        | some n => link there.path n
        | none => Run.insertNode there.path (.link source)
        if given.has 'v' then
          print (quote target ++ (if symbolic then " -> " else " => ") ++ quote source ++ "\n")

/-- `ln`. -/
def ln : Tool := fun _ words => do
  let given ← Options.read
    { flags := "bdFfinLPrsTv", values := "tS"
      long := [("symbolic", 's'), ("force", 'f'), ("verbose", 'v'), ("no-dereference", 'n'),
        ("target-directory", 't'), ("no-target-directory", 'T')] } words.tail
  match given.last? 't', given.operands with
  | none, [] => misuse "missing file operand"
  | none, [only] => linkOne given only (lastPart only)
  | none, operands =>
    let target := operands.getLast?.getD ""
    let sources := operands.dropLast
    if !given.has 'T' && !given.has 'n' && (← isDirectory target) then
      for source in sources do linkOne given source (below target (lastPart source))
    else if 1 < sources.length then
      die ("target " ++ quote target ++ ": " ++ FileError.text
        (if (← Run.node? target).isSome then .notDirectory else .missing))
    else linkOne given (sources.headD "") target
  | some directory, sources =>
    for source in sources do linkOne given source (below directory (lastPart source))

/-! ## Modes -/

/-- The permissions of a mode in nine letters. -/
def modeLetters (mode : Nat) : String :=
  let three (n : Nat) : String :=
    (if n &&& 4 != 0 then "r" else "-") ++ (if n &&& 2 != 0 then "w" else "-")
      ++ (if n &&& 1 != 0 then "x" else "-")
  let last :=
    if mode &&& 0o1000 == 0 then three (mode % 8)
    else ((three (mode % 8)).take 2).toString ++ (if mode &&& 1 != 0 then "t" else "T")
  three (mode / 64 % 8) ++ three (mode / 8 % 8) ++ last

/-- The mode of a node. -/
def modeOf : Node → Nat
  | .file _ mode | .directory mode => mode
  | .link _ => 0o777
  | .device (.descriptor _) => 0o777
  | .device _ => 0o666
  | .program _ => 0o755

/-- `chmod`. -/
def chmod : Tool := fun _ words => do
  let isMode (w : String) : Bool :=
    w.startsWith "-" && 1 < w.length && !(w.startsWith "--")
      && (w.drop 1).toString.toList.all "rwxXstugo,+=-".toList.contains
  let options := words.tail.filter fun w => !isMode w
  let given ← Options.read
    { flags := "cfvR", values := "E"
      long := [("changes", 'c'), ("silent", 'f'), ("quiet", 'f'), ("verbose", 'v'),
        ("recursive", 'R'), ("reference", 'E')] } options
  let bare := (words.tail.filter isMode).head?
  let (text, paths) ←
    match bare, given.operands with
    | some text, paths => pure (text, paths)
    | none, [] => misuse "missing operand"
    | none, text :: paths => pure (text, paths)
  if paths.isEmpty then misuse ("missing operand after " ++ quote text)
  if (Builtin.mode? 0 text).isNone then
    complain ("invalid mode: " ++ quote text)
    Run.warn (← tryHelp)
    leave 1
  let mask := (← Run.process).mask
  let change (path : String) (number : Nat) (node : Node) : Run Unit := do
    let old := modeOf node
    let wanted := (Builtin.mode? old text).getD old
    let open_ := text.toList.head?.any "+-=".toList.contains
    let new := if open_ then (old - (old &&& (0o777 - mask))) + (wanted &&& (0o777 - mask))
      else wanted
    let node := match node with
      | .file content _ => Node.file content new
      | .directory _ => .directory new
      | other => other
    Run.onSystem fun y => { y with tree := y.tree.update number node }
    let shown (m : Nat) : String :=
      Raw.padLeft 4 '0' (Raw.inBase 8 m) ++ " (" ++ modeLetters m ++ ")"
    if old != new && (given.has 'v' || given.has 'c') then
      print ("mode of " ++ quote path ++ " changed from " ++ shown old ++ " to " ++ shown new
        ++ "\n")
    else if given.has 'v' then
      print ("mode of " ++ quote path ++ " retained as " ++ shown old ++ "\n")
  for path in paths do
    match ← find path true with
    | .error e =>
      unless given.has 'f' do note ("cannot access " ++ quote path ++ ": " ++ e.text)
      Run.setStatus 1
    | .ok (place, node) =>
      change path (place.number.getD 0) node
      if given.has 'R' then
        let tree := (← Run.system).tree
        for (inner, number) in tree.names do
          if inner != place.path && isWithin place.path inner then
            match tree.node? number with
            | some (.link _) | none => pure ()
            | some node => change (path ++ (inner.drop place.path.length).toString) number node

end MonitorKeys.Shell.Tool.Files
