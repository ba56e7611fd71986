import SchemaRegistry.Auth.Vault
import SchemaRegistry.Host.Event
import SchemaRegistry.Log.Basic
import SchemaRegistry.Log.Endpoint
import SchemaRegistry.Store.Database

/-!
The machine a registry runs on: its disk, the databases in files, and the secret service it can
reach.  Logs and databases are opened here; a database is open once at most.
-/

namespace SchemaRegistry

structure Host where
  disk : Disk
  databases : Table Database
  opened : List String
  secretService : SecretRequest → Exchange
  events : List Event

namespace Host

def report {ε : Type} (e : Event) : Action Host ε Unit :=
  .change fun h => { h with events := h.events ++ [e] }

def makePath (path : String) : Action Host FileError Unit := .of fun h =>
  let (r, disk) := h.disk.makePath path
  (r, { h with disk })

def openDirectory (path : String) : Action Host FileError Log := do
  makePath path
  let place ← Action.ask fun h => h.disk.directory path
  report (.segmentsOpened path)
  let contents ← Action.ask fun h => .ok (h.disk.contents place)
  return .segments place (.ofNodes contents SegmentLog.defaultCapacity)

def openEndpoint (text : String) : Action Host EndpointError Log := do
  match ← Action.ask fun _ => Endpoint.parse text with
  | .memory => return .memory ∅
  | .directory path => (openDirectory path).mapError .directory

def openFirst (tried : List (String × EndpointError)) : List String → Action Host LogError Log
  | [] => throw (.noEndpoint tried)
  | text :: rest => .of fun h =>
    match (openEndpoint text).on h with
    | (.ok log, h) =>
      (do
        report (.endpointUsed text)
        return log : Action Host LogError Log).on h
    | (.error e, h) =>
      (do
        report (.endpointRefused text e)
        openFirst (tried ++ [(text, e)]) rest : Action Host LogError Log).on h

def openLog (endpoints : List String) : Action Host LogError Log := openFirst [] endpoints

def closeLog (h : Host) : Log → Host
  | .memory _ => h
  | .segments place log => { h with disk := h.disk.store place log.reopen.nodes }

/-- Open a database file, creating it and its directory where they are missing.  The answer is its
absolute path. -/
def openDatabase (path : String) : Action Host DatabaseFault String := do
  if let some parent := Path.parent? path then (makePath parent).mapError .directory
  let (place, disk) ← (Action.ask fun h => h.disk.openFile path).mapError .file
  .change fun h => { h with disk }
  let absolute := place.path
  if ← Action.ask fun h => .ok (h.opened.contains absolute) then throw .locked
  .change fun h => { h with opened := absolute :: h.opened }
  return absolute

/-- Try to open a database up to `left` times more, the last failure being `last`. -/
def attempt (path : String) (attempts : Nat) : (left : Nat) → (last : DatabaseFault) →
    Action Host StoreError String
  | 0, last => throw (.unavailable attempts last)
  | left + 1, _ => .of fun h =>
    match (openDatabase path).on h with
    | (.ok absolute, h) =>
      (do
        report (.databaseOpened path)
        return absolute : Action Host StoreError String).on h
    | (.error e, h) =>
      (do
        report (.databaseRefused path (attempts - left) attempts e)
        attempt path attempts left e : Action Host StoreError String).on h

def connect (path : String) (attempts : Nat) : Action Host StoreError (String × Database) := do
  let attempts := max attempts 1
  let absolute ← attempt path attempts attempts .locked
  let database ← Action.ask fun h => .ok ((h.databases.get? absolute).getD ∅)
  return (absolute, database)

def closeDatabase (h : Host) (absolute : String) (d : Database) : Host :=
  { h with
    databases := h.databases.insert absolute d
    opened := h.opened.filter (· ≠ absolute) }

end Host

end SchemaRegistry
