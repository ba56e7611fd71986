import SchemaRegistry.Server.Basic
import SchemaRegistry.Store.Image

/-!
The program around the server.  It takes over the part of the file system that a run can reach,
starts the server on it, shows its reports, and writes back what has changed.  The server waits
until its standard input ends.
-/

namespace SchemaRegistry.Program

def variableNames : List String :=
  let names := Settings.paths.map Settings.variableOfPath
  "VAULT_TOKEN" :: "RUST_LOG" :: names.map String.toUpper ++ names

def readEnvironment : IO Environment :=
  variableNames.filterMapM fun name => do return (← IO.getEnv name).map fun value => (name, value)

def placeOf (d : Disk) (path : String) : Place :=
  (Path.parts path).foldl (fun p part =>
      if part = "" || part = "." then p else if part = ".." then p.dropLast else p ++ [part])
    (if Path.isAbsolute path then [] else d.workingDirectory)

def copyNode (d : Disk) (p : Place) : IO Disk := do
  let path := (← IO.currentDir) / p.path
  if ← path.isDir then return d.insert p .directory
  else if ← path.pathExists then return d.insert p (.file (← IO.FS.readBinFile path).toList)
  else return d

def copyPath (d : Disk) (p : Place) : IO Disk :=
  (List.range (p.length + 1)).foldlM (fun d n => copyNode d (p.take n)) d

def copyDirectory (d : Disk) (p : Place) : IO Disk := do
  let d ← copyPath d p
  let path := (← IO.currentDir) / p.path
  if ← path.isDir then (← path.readDir).foldlM (fun d e => copyNode d (p ++ [e.fileName])) d
  else return d

def copyStorage (s : Settings) (d : Disk) : IO Disk := do
  let d ← s.log.endpoints.foldlM (fun d text =>
    match Endpoint.parse text with
    | .ok (.directory path) => copyDirectory d (placeOf d path)
    | _ => return d) d
  match s.backend.path with
  | some path => copyPath d (placeOf d path)
  | none => return d

def readDatabase (d : Disk) (p : Place) : IO (Table Database) := do
  match d.node? p with
  | some (.file content) =>
    match Database.Image.decode? content with
    | some database => return .ofList [(p.path, database)]
    | none => throw (IO.userError s!"{p.path} holds no database")
  | _ => return ∅

/-- The machine, as far as the command line and the settings reach.  The server asks the secret
service nothing by itself, so none is connected. -/
def readHost (arguments : List String) (environment : Environment) : IO Host := do
  let here := (Path.parts (← IO.currentDir).toString).filter (· ≠ "")
  let d ← copyPath { Disk.bare with workingDirectory := here } here
  let host (disk : Disk) (databases : Table Database) : Host :=
    { disk, databases, opened := [], secretService := fun _ => .unreachable, events := [] }
  match Arguments.parse arguments with
  | .ok (.run a) =>
    let d ← copyPath d (placeOf d a.config)
    let d ← copyPath d (placeOf d (a.config ++ ".toml"))
    match Server.readSettings d a environment with
    | .ok s =>
      let d ← copyStorage s d
      match s.backend.path with
      | some path => return host d (← readDatabase d (placeOf d path))
      | none => return host d ∅
    | .error _ => return host d ∅
  | _ => return host d ∅

def writeHost (old new : Host) : IO Unit := do
  for (path, node) in new.disk.nodes.entries do
    if old.disk.nodes.get? path ≠ some node then
      match node with
      | .directory => IO.FS.createDir path
      | .file content => IO.FS.writeBinFile path ⟨content.toArray⟩
  for (path, database) in new.databases.entries do
    if old.databases.get? path ≠ some database then
      IO.FS.writeBinFile path ⟨(Database.Image.encode database).toArray⟩

def waitForEnd : IO Unit := do
  let input ← IO.getStdin
  repeat
    if (← input.getLine).isEmpty then break

def printEvents (events : List Event) : IO Unit := events.forM fun e => IO.println e.line

end SchemaRegistry.Program

open SchemaRegistry Program in
def main (arguments : List String) : IO UInt32 := do
  let environment ← readEnvironment
  let atStart ← readHost arguments environment
  let (server, running) := Server.launch arguments environment atStart
  let early := server.shown running
  printEvents early
  writeHost atStart running
  if server matches .waiting .. then waitForEnd
  let (outcome, atEnd) := server.settle.interrupt running
  printEvents (outcome.shown.drop early.length)
  writeHost running atEnd
  outcome.answer.forM (IO.println ·)
  outcome.complaints.forM (IO.eprintln ·)
  return outcome.exit.toUInt32
