/-
Worlds made of a few named files.

Paths are resolved as a system does it: component by component from the root or the working directory,
through directories only, with `.` and `..` and repeated slashes. The working directory has an empty name,
which no path can spell, so it is reached only from inside.
-/
import OpalLocking.World

namespace OpalLocking

/-- What a name in a directory stands for. -/
inductive FileNode
  | directory
  | file (bytes : List UInt8)
deriving DecidableEq, Repr

/-- The entries of a file system by their components from the root. -/
abbrev FileSystem := List (List String × FileNode)

namespace FileSystem

/-- The components of the working directory. -/
def workingDirectory : List String := ["tmp", ""]

/-- What is there before any file is added: the usual directories, and two devices that read as empty. -/
def base : FileSystem :=
  let top := ["bin", "boot", "dev", "etc", "home", "lib", "mnt", "opt", "proc", "root", "run", "sbin", "srv",
    "sys", "tmp", "usr", "var"]
  [([], .directory)]
    ++ top.map (fun name => ([name], .directory))
    ++ [(workingDirectory, .directory), (["dev", "null"], .file []), (["dev", "zero"], .file [])]

/-- The longest name of an entry, and the longest path, in bytes. -/
def maxNameLength : Nat := 255

def maxPathLength : Nat := 4095

/-- The components of a path; an empty one stands for a slash that nothing precedes or follows. -/
def components (path : String) : List String :=
  (path.toList.splitOn '/').map String.ofList

/-- Follows components from the entry at `here`, which has been found to be `node`. -/
def walk (fs : FileSystem) : List String → List String → FileNode → Except OpenFailure FileNode
  | [], _, node => .ok node
  | name :: rest, here, node =>
    if node ≠ .directory then .error .notDirectory
    else if name = "" ∨ name = "." then fs.walk rest here node
    else if name = ".." then fs.walk rest here.dropLast .directory
    else if maxNameLength < name.utf8ByteSize then .error .nameTooLong
    else
      match fs.lookup (here ++ [name]) with
      | none => .error .noSuchEntry
      | some found => fs.walk rest (here ++ [name]) found

/-- What a path names. -/
def resolve (fs : FileSystem) (path : String) : Except OpenFailure FileNode :=
  if path.contains '\x00' then .error .embeddedNul
  else if path = "" then .error .noSuchEntry
  else if maxPathLength < path.utf8ByteSize then .error .nameTooLong
  else fs.walk (components path) (if path.startsWith "/" then [] else workingDirectory) .directory

/-- What the command line finds at a path. -/
def entry (fs : FileSystem) (path : String) : Entry :=
  match fs.resolve path with
  | .error why => .absent why
  | .ok .directory => .unreadable .isDirectory
  | .ok (.file bytes) => .contents bytes

/-- Adds an entry to the working directory, with the directories on the way to it. -/
def add (fs : FileSystem) (path : String) (node : FileNode) : FileSystem :=
  let parts := (components path).filter fun name => name ≠ "" ∧ name ≠ "."
  let parents := (List.range parts.length).map fun n => (workingDirectory ++ parts.take n, FileNode.directory)
  (workingDirectory ++ parts, node) :: fs ++ parents

end FileSystem

namespace World

/-- A world with these entries in its working directory. -/
def ofFiles (files : List (String × FileNode)) (environment : List (String × List UInt8))
    (stdin : List UInt8) : World :=
  let fs := files.foldl (fun fs (path, node) => FileSystem.add fs path node) FileSystem.base
  { entry := fs.entry
    environment := fun name => environment.lookup name
    stdin := .ok stdin }

end World

end OpalLocking
