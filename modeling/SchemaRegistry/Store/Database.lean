import SchemaRegistry.Store.Change
import SchemaRegistry.Store.Key
import SchemaRegistry.Store.Row
import SchemaRegistry.Store.Versions
import SchemaRegistry.Store.View
import SchemaRegistry.Table

/-!
The durable store: three ordered tables of rows, which others may have written.  Reads scan the keys
that start with a tenant or a subject, and fail on a key or row that cannot be read.  It keeps no
users.
-/

namespace SchemaRegistry

structure Database where
  schemas : Table Bytes
  globalLevels : Table String
  subjectLevels : Table String
  deriving DecidableEq

namespace Database

instance : EmptyCollection Database := ⟨⟨∅, ∅, ∅⟩⟩

instance : Inhabited Database := ⟨∅⟩

def decodeRow (key : String) (row : Bytes) : Answer Schema :=
  match Key.parse? key with
  | none => .error (.badKey key)
  | some (subject, version) =>
    match Row.decode row with
    | .error e => .error (.badRow e)
    | .ok row => .ok { subject, id := row.id, version, text := row.text }

def startsWith (start key : String) : Bool := (utf8 start).isPrefixOf (utf8 key)

def scan (d : Database) (start : String) : Answer (List Schema) :=
  ((d.schemas.listFrom start).takeWhile fun e => startsWith start e.1).mapM fun e =>
    decodeRow e.1 e.2

def tenant (d : Database) (tenant : String) : Answer (List Schema) :=
  d.scan (Key.tenantPrefix tenant)

def subject (d : Database) (tenant subject : String) : Answer (List Schema) :=
  d.scan (Key.subjectPrefix tenant subject)

def nextVersion (d : Database) (tenant subject : String) : Answer Nat :=
  return Versions.greatest (← d.subject tenant subject) + 1

def addSchema (d : Database) (tenant subject : String) (id : Int) (text : String) :
    Answer (Nat × Database) := do
  let version ← d.nextVersion tenant subject
  let schemas := d.schemas.insert (Key.schema tenant subject version) (Row.encode ⟨id, text⟩)
  return (version, { d with schemas })

def setGlobalLevel (d : Database) (tenant : String) (level : Level) : Database :=
  { d with globalLevels := d.globalLevels.insert tenant level.name }

def setSubjectLevel (d : Database) (tenant subject : String) (level : Level) : Database :=
  { d with subjectLevels := d.subjectLevels.insert (Key.subjectLevel tenant subject) level.name }

/-- Users are accepted and not kept. -/
def apply (d : Database) : Change → Answer Database
  | .schema tenant subject id text => return (← d.addSchema tenant subject id text).2
  | .globalLevel tenant level => .ok (d.setGlobalLevel tenant level)
  | .subjectLevel tenant subject level => .ok (d.setSubjectLevel tenant subject level)
  | .user _ => .ok d

def levelAt (levels : Table String) (key : String) : Answer (Option Level) :=
  match levels.get? key with
  | none => .ok none
  | some name =>
    match Level.ofName? name with
    | some level => .ok (some level)
    | none => .error (.badLevel name)

def dedup : List String → List String
  | a :: b :: rest => if a = b then dedup (b :: rest) else a :: dedup (b :: rest)
  | rest => rest

def view (d : Database) : View where
  isEmpty := d.schemas.isEmpty
  id? tenant text := return ((← d.tenant tenant).find? (·.text = text)).map (·.id)
  textOfId? tenant id := return ((← d.tenant tenant).find? (·.id = id)).map (·.text)
  subjects tenant := return dedup ((← d.tenant tenant).map (·.subject))
  versions? tenant subject := do
    let schemas ← d.subject tenant subject
    return if schemas.isEmpty then none else some (schemas.map (·.version))
  text? tenant subject version :=
    match d.schemas.get? (Key.schema tenant subject version) with
    | none => .ok none
    | some row =>
      match Row.decode row with
      | .ok row => .ok (some row.text)
      | .error e => .error (.badRow e)
  latest? tenant subject := return Versions.latest? (← d.subject tenant subject)
  find? tenant subject text := return (← d.subject tenant subject).find? (·.text = text)
  globalLevel? tenant := levelAt d.globalLevels tenant
  subjectLevel? tenant subject := levelAt d.subjectLevels (Key.subjectLevel tenant subject)
  userByName? _ := none
  userByToken? _ := none

end Database

end SchemaRegistry
