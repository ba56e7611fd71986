import SchemaRegistry.Store.Change
import SchemaRegistry.Store.Directory
import SchemaRegistry.Store.Versions
import SchemaRegistry.Store.View

/-!
The registry's state in memory: what all reads are served from first, and what replaying a log
builds up.  A cache accepts every change.
-/

namespace SchemaRegistry

structure Cache where
  /-- By tenant and subject, the schemas in the order they were added. -/
  schemas : Table (Table (List Schema))
  globalLevels : Table Level
  subjectLevels : Table (Table Level)
  users : Directory
  deriving DecidableEq

namespace Cache

instance : EmptyCollection Cache := ⟨⟨∅, ∅, ∅, ∅⟩⟩

instance : Inhabited Cache := ⟨∅⟩

def tenant (c : Cache) (tenant : String) : Table (List Schema) := (c.schemas.get? tenant).getD ∅

def subject (c : Cache) (tenant subject : String) : List Schema :=
  ((c.tenant tenant).get? subject).getD []

def all (c : Cache) (tenant : String) : List Schema := (c.tenant tenant).values.flatten

def nextVersion (c : Cache) (tenant subject : String) : Nat :=
  Versions.greatest (c.subject tenant subject) + 1

def addSchema (c : Cache) (tenant subject : String) (id : Int) (text : String) : Cache :=
  let schema := { subject, id, version := c.nextVersion tenant subject, text }
  let subjects := (c.tenant tenant).insert subject (c.subject tenant subject ++ [schema])
  { c with schemas := c.schemas.insert tenant subjects }

def setGlobalLevel (c : Cache) (tenant : String) (level : Level) : Cache :=
  { c with globalLevels := c.globalLevels.insert tenant level }

def levels (c : Cache) (tenant : String) : Table Level := (c.subjectLevels.get? tenant).getD ∅

def setSubjectLevel (c : Cache) (tenant subject : String) (level : Level) : Cache :=
  { c with subjectLevels := c.subjectLevels.insert tenant ((c.levels tenant).insert subject level) }

def addUser (c : Cache) (user : User) : Cache := { c with users := c.users.add user }

def apply (c : Cache) : Change → Cache
  | .schema tenant subject id text => c.addSchema tenant subject id text
  | .globalLevel tenant level => c.setGlobalLevel tenant level
  | .subjectLevel tenant subject level => c.setSubjectLevel tenant subject level
  | .user user => c.addUser user

def isEmpty (c : Cache) : Bool := c.schemas.values.all fun subjects =>
  subjects.values.all List.isEmpty

def view (c : Cache) : View where
  isEmpty := c.isEmpty
  id? tenant text := .ok (((c.all tenant).find? (·.text = text)).map (·.id))
  textOfId? tenant id := .ok (((c.all tenant).find? (·.id = id)).map (·.text))
  subjects tenant := .ok (c.tenant tenant).keys
  versions? tenant subject :=
    let schemas := c.subject tenant subject
    .ok (if schemas.isEmpty then none else some (schemas.map (·.version)))
  text? tenant subject version :=
    .ok (((c.subject tenant subject).find? (·.version = version)).map (·.text))
  latest? tenant subject := .ok (Versions.latest? (c.subject tenant subject))
  find? tenant subject text := .ok (Versions.earliest? (c.subject tenant subject) text)
  globalLevel? tenant := .ok (c.globalLevels.get? tenant)
  subjectLevel? tenant subject := .ok ((c.levels tenant).get? subject)
  userByName? := c.users.userByName?
  userByToken? := c.users.userByToken?

theorem subject_addSchema (c : Cache) (tenant subject : String) (id : Int) (text t s : String) :
    (c.addSchema tenant subject id text).subject t s =
      if t = tenant ∧ s = subject then
        c.subject t s ++ [{ subject, id, version := c.nextVersion tenant subject, text }]
      else c.subject t s := by
  by_cases ht : t = tenant
  · subst ht
    by_cases hs : s = subject
    · subst hs; simp [addSchema, Cache.subject, Cache.tenant]
    · simp [addSchema, Cache.subject, Cache.tenant, Table.get?_insert, hs]
  · simp [addSchema, Cache.subject, Cache.tenant, Table.get?_insert, ht]

theorem levels_setSubjectLevel (c : Cache) (tenant subject : String) (level : Level)
    (t s : String) :
    ((c.setSubjectLevel tenant subject level).levels t).get? s =
      if t = tenant ∧ s = subject then some level else (c.levels t).get? s := by
  by_cases ht : t = tenant
  · subst ht; simp [setSubjectLevel, levels, Table.get?_insert]
  · simp [setSubjectLevel, levels, Table.get?_insert, ht]

end Cache

end SchemaRegistry
