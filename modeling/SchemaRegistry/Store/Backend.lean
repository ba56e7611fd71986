import SchemaRegistry.Store.Cache
import SchemaRegistry.Store.Database

namespace SchemaRegistry

inductive Backend
  | cache (c : Cache)
  | database (d : Database)

namespace Backend

def view : Backend → View
  | cache c => c.view
  | database d => d.view

def apply (b : Backend) (change : Change) : Answer Backend :=
  match b with
  | cache c => .ok (.cache (c.apply change))
  | database d => return .database (← d.apply change)

def nextVersion (b : Backend) (tenant subject : String) : Answer Nat :=
  match b with
  | cache c => .ok (c.nextVersion tenant subject)
  | database d => d.nextVersion tenant subject

end Backend

end SchemaRegistry
