import SchemaRegistry.Disk.Error
import SchemaRegistry.Disk.Node
import SchemaRegistry.Disk.Path
import SchemaRegistry.Table

/-!
A disk: a tree of directories and files, as far as a registry meets it.  A place is known by the
names on the way to it from the root.
-/

namespace SchemaRegistry

abbrev Place := List String

namespace Place

def path (p : Place) : String := "/" ++ "/".intercalate p

end Place

structure Disk where
  nodes : Table Node
  workingDirectory : Place

namespace Disk

def bare : Disk where
  nodes := .ofList [("/", .directory), ("/dev", .directory), ("/dev/null", .file []),
    ("/etc", .directory), ("/tmp", .directory)]
  workingDirectory := []

def node? (d : Disk) (p : Place) : Option Node := d.nodes.get? p.path

def insert (d : Disk) (p : Place) (n : Node) : Disk := { d with nodes := d.nodes.insert p.path n }

def enter (d : Disk) (p : Place) (part : String) : Except FileError Place :=
  if part = "" || part = "." then .ok p
  else if part = ".." then .ok p.dropLast
  else if !Path.partFits part then .error .nameTooLong
  else match d.node? (p ++ [part]) with
    | none => .error .notFound
    | some .directory => .ok (p ++ [part])
    | some (.file _) => .error .notDirectory

def start (d : Disk) (path : String) : Except FileError (Place × List String) :=
  if path.toList.contains '\x00' then .error .nulInName
  else if path = "" then .error .notFound
  else if Path.longest < (utf8 path).length then .error .nameTooLong
  else .ok (if Path.isAbsolute path then [] else d.workingDirectory, Path.parts path)

def directory (d : Disk) (path : String) : Except FileError Place := do
  let (p, parts) ← d.start path
  parts.foldlM d.enter p

def isDirectory (d : Disk) (path : String) : Bool := (d.directory path).isOk

/-- The directory that a path's last part lies in, and that part. -/
def last (d : Disk) (path : String) : Except FileError (Place × String) := do
  let (p, parts) ← d.start path
  let parts := (parts.reverse.dropWhile (· = "")).reverse
  let p ← parts.dropLast.foldlM d.enter p
  return (p, parts.getLast?.getD ".")

def makeDirectory (d : Disk) (path : String) : Except FileError Disk := do
  let (p, name) ← d.last path
  if name = "." || name = ".." then .error .alreadyExists
  else if !Path.partFits name then .error .nameTooLong
  else match d.node? (p ++ [name]) with
    | some _ => .error .alreadyExists
    | none => return d.insert (p ++ [name]) .directory

/-- Make a directory after its parents.  What was made before a failure stays. -/
def makeDirectories : (fuel : Nat) → (path : String) → Disk → Except FileError Unit × Disk
  | 0, _, d => (.error .noTree, d)
  | fuel + 1, path, d =>
    if path = "" then (.ok (), d)
    else
      let made (d : Disk) : Except FileError Unit × Disk :=
        match d.makeDirectory path with
        | .ok d => (.ok (), d)
        | .error e => if d.isDirectory path then (.ok (), d) else (.error e, d)
      match d.makeDirectory path with
      | .error .notFound =>
        match Path.parent? path with
        | none => (.error .noTree, d)
        | some parent =>
          match makeDirectories fuel parent d with
          | (.ok (), d) => made d
          | (.error e, d) => (.error e, d)
      | _ => made d

def makePath (d : Disk) (path : String) : Except FileError Unit × Disk :=
  d.makeDirectories ((Path.parts path).length + 1) path

/-- The place of a file that is opened for writing, and created if it is not there. -/
def openFile (d : Disk) (path : String) : Except FileError (Place × Disk) := do
  let (p, name) ← d.last path
  if name = "." || name = ".." || path.toList.getLast? = some '/' then .error .isDirectory
  else if !Path.partFits name then .error .nameTooLong
  else match d.node? (p ++ [name]) with
    | some .directory => .error .isDirectory
    | some (.file _) => return (p ++ [name], d)
    | none => return (p ++ [name], d.insert (p ++ [name]) (.file []))

def read? (d : Disk) (path : String) : Option Bytes :=
  match d.last path with
  | .error _ => none
  | .ok (p, name) =>
    match d.node? (p ++ [name]) with
    | some (.file content) => if path.toList.getLast? = some '/' then none else some content
    | _ => none

/-- What a path below a directory is called there, when it lies in it directly. -/
def nameIn (p : Place) (path : String) : Option String :=
  let start := if p.isEmpty then "/" else p.path ++ "/"
  if (utf8 start).isPrefixOf (utf8 path) then
    let name := String.ofList (path.toList.drop start.length)
    if name = "" || name.toList.contains '/' then none else some name
  else none

def contents (d : Disk) (p : Place) : Table Node :=
  .ofList (d.nodes.entries.filterMap fun e => (nameIn p e.1).map fun name => (name, e.2))

def store (d : Disk) (p : Place) (contents : Table Node) : Disk :=
  contents.entries.foldl (fun d e => d.insert (p ++ [e.1]) e.2) d

end Disk

end SchemaRegistry
