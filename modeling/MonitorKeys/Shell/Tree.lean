import MonitorKeys.Shell.Raw
import MonitorKeys.SystemError

/-!
# The tree of files

What shell commands find in the file system: files, directories, links, devices and programs, each
under an absolute path.  `Tree.resolve` follows a path to the end, and says why where there is no
end to it.
-/

namespace MonitorKeys.Shell

/-- The errors that files give rise to. -/
inductive FileError where
  | missing
  | busyInput
  | badDescriptor
  | denied
  | taken
  | notDirectory
  | isDirectory
  | invalid
  | full
  | brokenPipe
  | notEmpty
  | loop
  | noDevice
  deriving DecidableEq, Repr

namespace FileError

/-- The number of an error in the system's numbering. -/
def code : FileError → Nat
  | missing => 2
  | busyInput => 5
  | badDescriptor => 9
  | denied => 13
  | taken => 17
  | notDirectory => 20
  | isDirectory => 21
  | invalid => 22
  | full => 28
  | brokenPipe => 32
  | notEmpty => 39
  | loop => 40
  | noDevice => 6

/-- The system's words for an error. -/
def text (e : FileError) : String :=
  SystemError.text e.code

end FileError

/-- Devices without a memory. -/
inductive Device where
  /-- Nothing to read, and what is written is lost. -/
  | null
  /-- Zeros without end. -/
  | zero
  /-- Zeros without end, and no room for anything. -/
  | full
  /-- Arbitrary bytes without end. -/
  | random
  /-- A terminal that nobody is at. -/
  | terminal
  /-- The descriptor of the reading process with this number. -/
  | descriptor (n : Nat)
  deriving DecidableEq, Repr

/-- What stands at a place in the tree. -/
inductive Node where
  | file (content : ByteArray) (mode : Nat)
  | directory (mode : Nat)
  | link (target : String)
  | device (device : Device)
  /-- A program of the system. -/
  | program (name : String)

/-- The tree of files: nodes by their numbers, and the numbers under each path. -/
structure Tree where
  nodes : Array Node
  names : List (String × Nat)

namespace Tree

/-- The number of the node at an absolute path without links in it. -/
def number? (t : Tree) (path : String) : Option Nat :=
  t.names.lookup path

/-- The node with a number. -/
def node? (t : Tree) (n : Nat) : Option Node :=
  t.nodes[n]?

/-- Put a node under a path, in the place of what was there. -/
def insert (t : Tree) (path : String) (node : Node) : Tree :=
  { nodes := t.nodes.push node
    names := (path, t.nodes.size) :: t.names.filter (·.1 != path) }

/-- Change the node with a number. -/
def update (t : Tree) (n : Nat) (node : Node) : Tree :=
  { t with nodes := t.nodes.setIfInBounds n node }

/-- Take a path away. -/
def erase (t : Tree) (path : String) : Tree :=
  { t with names := t.names.filter (·.1 != path) }

/-- An absolute path from its parts. -/
def absolute (parts : List String) : String :=
  "/" ++ "/".intercalate parts

/-- The parts of a path. -/
def parts (path : String) : List String :=
  (path.splitOn "/").filter fun p => p != "" && p != "."

/-- The parts of an absolute path, or of a path below a directory. -/
def partsFrom (directory path : String) : List String :=
  if path.startsWith "/" then parts path else parts directory ++ parts path

/-- Where a path leads: the absolute path without links, and the number of what is there. -/
structure Place where
  path : String
  number : Option Nat
  deriving Repr

/-- Follow the parts of a path from the directory whose parts are given from the last one on.  A
link at the end is followed where that is asked for.  The first argument bounds the number of
steps. -/
def follow (t : Tree) (last : Bool) :
    Nat → List String → List String → Except FileError Place
  | 0, _, _ => .error .loop
  | _, here, [] =>
    let path := absolute here.reverse
    .ok ⟨path, t.number? path⟩
  | n + 1, here, part :: rest =>
    if part = ".." then follow t last n here.tail rest
    else
      let path := absolute (part :: here).reverse
      match t.number? path, rest with
      | none, [] => .ok ⟨path, none⟩
      | none, _ => .error .missing
      | some number, rest =>
        match t.node? number with
        | some (.link target) =>
          if rest.isEmpty && !last then .ok ⟨path, some number⟩
          else if target.startsWith "/" then follow t last n [] (parts target ++ rest)
          else follow t last n here (parts target ++ rest)
        | some (.directory _) => follow t last n (part :: here) rest
        | _ => if rest.isEmpty then .ok ⟨path, some number⟩ else .error .notDirectory

/-- Where a path leads from a directory. -/
def resolve (t : Tree) (directory path : String) (last : Bool := true) :
    Except FileError Place :=
  if path.isEmpty then .error .missing
  else
    match follow t last 200 [] (partsFrom directory path) with
    | .error e => .error e
    | .ok place =>
      match path.endsWith "/", place.number.bind t.node? with
      | true, some (.directory _) => .ok place
      | true, some _ => .error .notDirectory
      | _, _ => .ok place

/-- The node that a path leads to from a directory. -/
def find? (t : Tree) (directory path : String) : Option Node :=
  match t.resolve directory path with
  | .ok place => place.number.bind t.node?
  | .error _ => none

/-- The names in a directory, in alphabetical order. -/
def list (t : Tree) (directory : String) : List String :=
  let front := if directory = "/" then "/" else directory ++ "/"
  (t.names.filterMap fun (path, _) =>
    if path != "/" && path.startsWith front then
      let name := (path.drop front.length).toString
      if name.contains '/' then none else some name
    else none).mergeSort fun a b => decide (a ≤ b)

/-- The directory that a path lies in. -/
def parent (path : String) : String :=
  absolute (parts path).dropLast

/-- The last part of a path. -/
def baseName (path : String) : String :=
  (parts path).getLast?.getD "/"

/-! ## The tree of a fresh system -/

/-- The directories of a fresh system. -/
def usualDirectories : List String :=
  ["/", "/boot", "/dev", "/dev/fd", "/dev/pts", "/dev/shm", "/etc", "/home", "/media", "/mnt",
   "/opt", "/proc", "/proc/self", "/proc/self/fd", "/root", "/run", "/srv", "/sys", "/tmp", "/usr",
   "/usr/bin", "/usr/games", "/usr/include", "/usr/lib", "/usr/lib64", "/usr/local",
   "/usr/local/bin", "/usr/local/lib", "/usr/local/sbin", "/usr/local/share", "/usr/sbin",
   "/usr/share", "/usr/src", "/var", "/var/cache", "/var/lib", "/var/log", "/var/tmp"]

/-- The mode of a directory of a fresh system. -/
def usualMode (path : String) : Nat :=
  if ["/tmp", "/var/tmp", "/dev/shm"].contains path then 0o1777
  else if path == "/root" then 0o700
  else 0o755

/-- The links of a fresh system. -/
def usualLinks : List (String × String) :=
  [("/usr/bin/sh", "dash"), ("/bin", "usr/bin"), ("/sbin", "usr/sbin"), ("/lib", "usr/lib"),
   ("/lib64", "usr/lib64"), ("/var/run", "/run")]

/-- The devices of a fresh system. -/
def usualDevices : List (String × Device) :=
  [("/dev/null", .null), ("/dev/zero", .zero), ("/dev/full", .full), ("/dev/random", .random),
   ("/dev/urandom", .random), ("/dev/tty", .terminal), ("/dev/stdin", .descriptor 0),
   ("/dev/stdout", .descriptor 1), ("/dev/stderr", .descriptor 2)]
    ++ (List.range 10).flatMap fun n =>
      [("/dev/fd/" ++ toString n, .descriptor n), ("/proc/self/fd/" ++ toString n, .descriptor n)]

/-- The files of a fresh system. -/
def usualFiles : List (String × String) :=
  [("/etc/passwd", "root:x:0:0:root:/root:/bin/bash\n"), ("/etc/group", "root:x:0:\n"),
   ("/etc/hostname", "localhost\n"), ("/etc/hosts", "127.0.0.1\tlocalhost\n"),
   ("/etc/shadow", "root:*:1:0:99999:7:::\n"), ("/etc/fstab", ""), ("/etc/profile", "")]

/-- The tree of a fresh system with the given programs. -/
def fresh (programs : List String) : Tree :=
  let t : Tree := ⟨#[], []⟩
  let t := usualDirectories.foldl (fun t path => t.insert path (.directory (usualMode path))) t
  let t := usualLinks.foldl (fun t (path, target) => t.insert path (.link target)) t
  let t := usualDevices.foldl (fun t (path, device) => t.insert path (.device device)) t
  let t := usualFiles.foldl
    (fun t (path, text) => t.insert path (.file (Raw.store .empty text) 0o644)) t
  programs.foldl (fun t name => t.insert ("/usr/bin/" ++ name) (.program name)) t

end Tree

end MonitorKeys.Shell
