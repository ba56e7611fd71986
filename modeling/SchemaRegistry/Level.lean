import SchemaRegistry.Json.Typed

namespace SchemaRegistry

inductive Level
  | none
  /-- The new schema can read data written with the previous one. -/
  | backward
  /-- The previous schema can read data written with the new one. -/
  | forward
  | full
  deriving DecidableEq, Repr

namespace Level

instance : Inhabited Level := ⟨backward⟩

def all : List Level := [none, backward, forward, full]

def name : Level → String
  | none => "NONE"
  | backward => "BACKWARD"
  | forward => "FORWARD"
  | full => "FULL"

def ofName? (s : String) : Option Level := all.find? (·.name = s)

def index : Level → Nat
  | none => 0
  | backward => 1
  | forward => 2
  | full => 3

@[simp] theorem ofName?_name (l : Level) : ofName? l.name = some l := by cases l <;> decide

theorem name_of_ofName? {s : String} {l : Level} (h : ofName? s = some l) : l.name = s := by
  simpa using List.find?_some h

def named : List (String × Level) := all.map fun l => (l.name, l)

def read : Json.Reader Level := Json.readVariant named

end Level

def invalidLevel (s : String) : String := s!"invalid compatibility level: {s}"

end SchemaRegistry
