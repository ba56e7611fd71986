import SchemaRegistry.Compatibility
import SchemaRegistry.Storage

/-!
The registry's service: schemas are registered, looked up and checked here.  A new schema must be
JSON and compatible with the latest version of its subject.
-/

namespace SchemaRegistry

structure Policy where
  rules : Rules
  /-- The level where neither subject nor tenant has one. -/
  defaultLevel : Level

inductive ServiceError
  | invalidSchema (cause : Json.Error)
  | incompatible (subject : String) (level : Level)
  | subjectNotFound (subject : String)
  | versionNotFound (subject : String) (version : Nat)
  | idNotFound (id : Int)
  | noMatch (subject : String)
  | storage (cause : StorageError)
  deriving DecidableEq, Repr

def ServiceError.message : ServiceError → String
  | .invalidSchema cause => s!"invalid schema: {cause.message}"
  | .incompatible subject level =>
    s!"schema is incompatible with the latest version of {subject} under {level.name}"
  | .subjectNotFound subject => s!"subject not found: {subject}"
  | .versionNotFound subject version => s!"version {version} of subject {subject} not found"
  | .idNotFound id => s!"schema not found: id {id}"
  | .noMatch subject => s!"schema not found: no version of {subject} matches"
  | .storage cause => s!"error in the backend datastore: {cause.message}"

namespace Service

abbrev Result (α : Type) := Except ServiceError α

def found {α : Type} (a : Answer α) : Result α :=
  match a with
  | .ok a => .ok a
  | .error e => .error (.storage (.store e))

def present {α : Type} (a : Answer (Option α)) (missing : ServiceError) : Result α :=
  match found a with
  | .ok (some a) => .ok a
  | .ok none => .error missing
  | .error e => .error e

/-- A schema must at least be a JSON document. -/
def checkSyntax (text : String) : Result Unit :=
  match Json.parse (utf8 text) with
  | .ok _ => .ok ()
  | .error e => .error (.invalidSchema e)

def globalLevel (p : Policy) (v : View) (tenant : String) : Result Level :=
  return (← found (v.globalLevel? tenant)).getD p.defaultLevel

def effectiveLevel (p : Policy) (v : View) (tenant subject : String) : Result Level := do
  match ← found (v.subjectLevel? tenant subject) with
  | some level => return level
  | none => globalLevel p v tenant

def subjectLevel (v : View) (tenant subject : String) : Result Level :=
  present (v.subjectLevel? tenant subject) (.subjectNotFound subject)

def subjects (v : View) (tenant : String) : Result (List String) := found (v.subjects tenant)

def versions (v : View) (tenant subject : String) : Result (List Nat) :=
  present (v.versions? tenant subject) (.subjectNotFound subject)

def schema (v : View) (tenant subject : String) (version : Nat) : Result String :=
  present (v.text? tenant subject version) (.versionNotFound subject version)

def latest (v : View) (tenant subject : String) : Result Schema :=
  present (v.latest? tenant subject) (.subjectNotFound subject)

def schemaById (v : View) (tenant : String) (id : Int) : Result String :=
  present (v.textOfId? tenant id) (.idNotFound id)

def lookup (v : View) (tenant subject text : String) : Result Schema := do
  match ← found (v.find? tenant subject text) with
  | some schema => return schema
  | none =>
    let _ ← versions v tenant subject
    throw (.noMatch subject)

def checkCompatibility (p : Policy) (v : View) (tenant subject : String) (version : Nat)
    (text : String) : Result Bool := do
  checkSyntax text
  let existing ← schema v tenant subject version
  let level ← effectiveLevel p v tenant subject
  return p.rules.isCompatible text existing level

/-- Whether a text has to be stored: the id it has already, or nothing if it may be new. -/
def review (p : Policy) (v : View) (tenant subject text : String) : Result (Option Int) := do
  checkSyntax text
  match ← found (v.find? tenant subject text) with
  | some schema => return some schema.id
  | none =>
    match ← found (v.latest? tenant subject) with
    | none => return none
    | some latest =>
      let level ← effectiveLevel p v tenant subject
      if p.rules.isCompatible text latest.text level then return none
      else throw (.incompatible subject level)

/-- Register a text under a subject.  One that is there keeps its id. -/
def register (p : Policy) (tenant subject text : String) : Action Storage ServiceError Int := do
  match ← Action.ask fun s => review p s.view tenant subject text with
  | some id => return id
  | none => (Storage.storeSchema tenant subject text).mapError .storage

def setGlobalLevel (tenant : String) (level : Level) :
    Action Storage ServiceError LevelSetting := do
  (Storage.setGlobalLevel tenant level).mapError .storage
  return ⟨level⟩

def setSubjectLevel (tenant subject : String) (level : Level) :
    Action Storage ServiceError LevelSetting := do
  (Storage.setSubjectLevel tenant subject level).mapError .storage
  return ⟨level⟩

end Service

end SchemaRegistry
