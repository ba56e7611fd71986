import SchemaRegistry.Json.Document
import SchemaRegistry.Level

/-!
Whether one schema may follow another.  Rules give each level a checker; the checker of records
compares fields.  A reader can read what a writer wrote when every field that only the reader knows
has a default.
-/

namespace SchemaRegistry

/-- The directions in which a checker demands that data can be read. -/
structure Checker where
  backward : Bool
  forward : Bool
  deriving DecidableEq, Repr

namespace Checker

def backwardOnly : Checker := ⟨true, false⟩
def forwardOnly : Checker := ⟨false, true⟩
def both : Checker := ⟨true, true⟩

end Checker

inductive Side
  | candidate
  | existing
  deriving DecidableEq, Repr

def Side.name : Side → String
  | .candidate => "candidate"
  | .existing => "existing"

inductive Incompatibility
  | unreadable (side : Side) (cause : Json.Error)
  | typeChanged
  | backward (field : String)
  | forward (field : String)
  deriving DecidableEq, Repr

def Incompatibility.message : Incompatibility → String
  | .unreadable side cause => s!"{side.name} schema: {cause.message}"
  | .typeChanged => "schema type changed"
  | .backward field => s!"backward: field '{field}' has no default"
  | .forward field => s!"forward: field '{field}' has no default"

namespace Compatibility

open Json

def fieldOf? (v : Value) : Option (String × Bool) := do
  let name ← (← v.member? "name").string?
  return (name, (v.member? "default").isSome)

/-- The fields of a record schema by name; of equal names the last counts.  Entries that are no
named objects are ignored. -/
def recordFields? (v : Value) : Option (Table Bool) := do
  let fields ← (← v.member? "fields").items?
  return Table.ofList (fields.filterMap fieldOf?)

/-- The first field that `reader` needs and `writer` never wrote. -/
def unreadable? (reader writer : Table Bool) : Option String :=
  (reader.entries.find? fun f => !writer.contains f.1 && !f.2).map (·.1)

/-- The `type` members agree: both absent, or the same value. -/
def sameType (a b : Value) : Bool :=
  match a.member? "type", b.member? "type" with
  | none, none => true
  | some x, some y => x.same y
  | _, _ => false

def checkFields (c : Checker) (candidate existing : Table Bool) : Except Incompatibility Unit :=
  match (if c.backward then unreadable? candidate existing else none) with
  | some field => .error (.backward field)
  | none =>
    match (if c.forward then unreadable? existing candidate else none) with
    | some field => .error (.forward field)
    | none => .ok ()

def checkValues (c : Checker) (candidate existing : Value) : Except Incompatibility Unit :=
  match recordFields? candidate, recordFields? existing with
  | some new, some old => checkFields c new old
  | _, _ => if sameType candidate existing then .ok () else .error .typeChanged

def parseSide (side : Side) (text : String) : Except Incompatibility Value :=
  match parse (utf8 text) with
  | .ok v => .ok v
  | .error e => .error (.unreadable side e)

end Compatibility

def Checker.validate (c : Checker) (candidate existing : String) : Except Incompatibility Unit := do
  let candidate ← Compatibility.parseSide .candidate candidate
  let existing ← Compatibility.parseSide .existing existing
  Compatibility.checkValues c candidate existing

abbrev Rules := Level → Option Checker

namespace Rules

def empty : Rules := fun _ => none

def set (r : Rules) (level : Level) (checker : Checker) : Rules :=
  fun l => if l = level then some checker else r l

def recordFields : Rules
  | .none => none
  | .backward => some .backwardOnly
  | .forward => some .forwardOnly
  | .full => some .both

/-- Without a checker only the level `none` accepts anything. -/
def isCompatible (r : Rules) (candidate existing : String) (level : Level) : Bool :=
  if level = .none then true
  else match r level with
    | none => false
    | some c => (c.validate candidate existing).isOk

end Rules

end SchemaRegistry
