import SchemaRegistry.Schema

namespace SchemaRegistry.Versions

def greatest (schemas : List Schema) : Nat := schemas.foldl (fun n s => max n s.version) 0

/-- The schema of the greatest version, of equal ones the last. -/
def latest? (schemas : List Schema) : Option Schema :=
  schemas.foldl (fun best s =>
    match best with
    | some b => if b.version ≤ s.version then some s else some b
    | none => some s) none

/-- The schema of the least version with this text, of equal ones the first. -/
def earliest? (schemas : List Schema) (text : String) : Option Schema :=
  (schemas.filter (·.text = text)).foldl (fun best s =>
    match best with
    | some b => if s.version < b.version then some s else some b
    | none => some s) none

end SchemaRegistry.Versions
