import SchemaRegistry.Json.Typed
import SchemaRegistry.Json.Value

/-! Reading a known type from a JSON value.  Issues have no position, and members are visited in the
order of their names. -/

namespace SchemaRegistry.Json

abbrev Decoder (α : Type) := Value → Except Issue α

namespace Value

def found : Value → Found
  | .null => .null
  | .bool b => .bool b
  | .number (.whole i) => .integer i
  | .number (.real x) => .real x
  | .string s => .string s
  | .array _ => .sequence
  | .object _ => .map

def mismatch {α : Type} (v : Value) (expected : String) : Except Issue α :=
  .error (.invalidType v.found expected)

def decodeBool : Decoder Bool
  | .bool b => .ok b
  | v => v.mismatch "a boolean"

def decodeString (expected : String) : Decoder String
  | .string s => .ok s
  | v => v.mismatch expected

def decodeInteger (k : IntegerKind) : Decoder Int
  | .number n => k.ofNumber n
  | v => v.mismatch k.name

def decodeOption {α : Type} (some : Decoder α) : Decoder (Option α)
  | .null => .ok none
  | v => do return .some (← some v)

def decodeList {α : Type} (item : Decoder α) : Decoder (List α)
  | .array items => items.mapM item
  | v => v.mismatch "a sequence"

/-- One of several names: a string, or an object whose only member has the name and `null`. -/
def decodeVariant {α : Type} (known : List (String × α)) : Decoder α :=
  let named (name : String) : Except Issue α :=
    match known.lookup name with
    | some a => .ok a
    | none => .error (.unknownVariant name (known.map (·.1)))
  fun
  | .string s => named s
  | .object [(name, content)] => do
    let a ← named name
    match content with
    | .null => return a
    | v => v.mismatch "unit"
  | .object _ => .error (.invalidValue .map "map with a single key")
  | v => v.mismatch "string or map"

structure Field (σ : Type) where
  name : String
  decoder : Decoder (σ → σ)

def decodeMembers {σ : Type} (fields : List (Field σ)) (start : σ) :
    List (String × Value) → Except Issue σ
  | [] => .ok start
  | (name, v) :: rest => do
    match fields.find? (·.name = name) with
    | none => decodeMembers fields start rest
    | some f => decodeMembers fields ((← f.decoder v) start) rest

/-- Fields from an array, in order; too few are no issue. -/
def decodeItems {σ : Type} (length : Nat) :
    List (Field σ) → σ → List Value → Except Issue σ
  | f :: fs, acc, v :: vs => do decodeItems length fs ((← f.decoder v) acc) vs
  | _, acc, [] => .ok acc
  | [], _, _ :: _ => .error (.invalidLength length "fewer elements in array")

def decodeRecord {σ : Type} (name : String) (fields : List (Field σ)) (start : σ) : Decoder σ
  | .object members => decodeMembers fields start members
  | .array items => decodeItems items.length fields start items
  | v => v.mismatch s!"struct {name}"

end Value

end SchemaRegistry.Json
