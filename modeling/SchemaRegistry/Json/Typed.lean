import SchemaRegistry.Json.Skip

/-!
Reading values of a known type.  A record is read from an object, members in any order and unknown
ones skipped, or from an array of its fields in order.  Each reader names what it expected.
-/

namespace SchemaRegistry.Json

/-- The failure of a value whose kind is not the expected one.  A scalar is read in full first, so
its own faults come before. -/
def mismatch (expected : String) (s : Bytes) : Failure :=
  let wrong (found : Found) (s : Bytes) : Failure := ⟨.invalidType found expected, s.length⟩
  match s with
  | [] => ⟨.expectedValue, 0⟩
  | b :: rest =>
    if b = 110 then
      match readWord [117, 108, 108] rest with
      | .ok s => wrong .null s
      | .error f => f
    else if b = 116 then
      match readWord [114, 117, 101] rest with
      | .ok s => wrong (.bool true) s
      | .error f => f
    else if b = 102 then
      match readWord [97, 108, 115, 101] rest with
      | .ok s => wrong (.bool false) s
      | .error f => f
    else if b = 45 || Bytes.isDigit b then
      match readNumber (b = 45) (if b = 45 then rest else s) with
      | .ok (.whole i, s) => wrong (.integer i) s
      | .ok (.real x, s) => wrong (.real x) s
      | .error f => f
    else if b = 34 then
      match readStringBody rest with
      | .ok (text, s) => wrong (.string text) s
      | .error f => f
    else if b = 91 then wrong .sequence s
    else if b = 123 then wrong .map s
    else ⟨.expectedValue, rest.length⟩

def readBool : Reader Bool := fun s =>
  match skipBlank s with
  | [] => failNext .eofValue []
  | b :: rest =>
    if b = 116 then do return (true, ← readWord [114, 117, 101] rest)
    else if b = 102 then do return (false, ← readWord [97, 108, 115, 101] rest)
    else .error (mismatch "a boolean" (b :: rest))

def readString (expected : String) : Reader String := fun s =>
  match skipBlank s with
  | [] => failNext .eofValue []
  | b :: rest => if b = 34 then readStringBody rest else .error (mismatch expected (b :: rest))

structure IntegerKind where
  name : String
  least : Int
  greatest : Int
  deriving DecidableEq, Repr

namespace IntegerKind

def i64 : IntegerKind := ⟨"i64", -0x8000000000000000, 0x7fffffffffffffff⟩
def u32 : IntegerKind := ⟨"u32", 0, 0xffffffff⟩
def u64 : IntegerKind := ⟨"u64", 0, 0xffffffffffffffff⟩
def usize : IntegerKind := ⟨"usize", 0, 0xffffffffffffffff⟩

def ofNumber (k : IntegerKind) : Number → Except Issue Int
  | .whole i =>
    if k.least ≤ i && i ≤ k.greatest then .ok i else .error (.invalidValue (.integer i) k.name)
  | .real x => .error (.invalidType (.real x) k.name)

end IntegerKind

def readInteger (k : IntegerKind) : Reader Int := fun s =>
  match skipBlank s with
  | [] => failNext .eofValue []
  | b :: rest =>
    if b = 45 || Bytes.isDigit b then do
      let (n, s) ← readNumber (b = 45) (if b = 45 then rest else b :: rest)
      match k.ofNumber n with
      | .ok i => return (i, s)
      | .error issue => failHere issue s
    else .error (mismatch k.name (b :: rest))

def readOption {α : Type} (some : Reader α) : Reader (Option α) := fun s =>
  match skipBlank s with
  | [] => do
    let (a, s) ← some []
    return (.some a, s)
  | b :: rest =>
    if b = 110 then do return (none, ← readWord [117, 108, 108] rest)
    else do
      let (a, s) ← some (b :: rest)
      return (.some a, s)

def closeArray (s : Bytes) : Except Failure Bytes :=
  match skipBlank s with
  | [] => failNext .eofList []
  | b :: rest =>
    if b = 93 then .ok rest
    else if b = 44 then
      match skipBlank rest with
      | c :: rest =>
        failNext (if c = 93 then .trailingComma else .trailingCharacters) (c :: rest)
      | [] => failNext .trailingCharacters []
    else failNext .trailingCharacters (b :: rest)

def readList {α : Type} (item : Reader α) : Reader (List α) := fun s =>
  match skipBlank s with
  | [] => failNext .eofValue []
  | b :: rest =>
    if b = 91 then readElements item (rest.length + 1) true rest
    else .error (mismatch "a sequence" (b :: rest))

/-- An object of texts; of equal names the last counts. -/
def readStringMap : Reader (List (String × String)) := fun s =>
  match skipBlank s with
  | [] => failNext .eofValue []
  | b :: rest =>
    if b = 123 then readMembers (readString "a string") (rest.length + 1) true rest
    else .error (mismatch "a map" (b :: rest))

structure Field (σ : Type) where
  name : String
  reader : Reader (σ → σ)

def Field.of {σ α : Type} (name : String) (reader : Reader α) (set : α → σ → σ) : Field σ where
  name := name
  reader s := do
    let (a, s) ← reader s
    return (set a, s)

/-- A record: its name in messages, its fields in order, what they are stored into, and whether all
of them must be present. -/
structure Layout (σ : Type) where
  name : String
  fields : List (Field σ)
  start : σ
  complete : Bool

namespace Layout

variable {σ : Type}

def expectation (l : Layout σ) : String :=
  let n := l.fields.length
  let noun := if n = 1 then "element" else "elements"
  s!"struct {l.name} with {n} {noun}"

def readItems (l : Layout σ) :
    (first : Bool) → List (Field σ) → σ → Bytes → Except Failure (Except Issue σ × Bytes)
  | _, [], acc, s => .ok (.ok acc, s)
  | first, f :: fs, acc, s => do
    match skipBlank s with
    | [] => failNext .eofList []
    | b :: rest =>
      if b = 93 then
        if l.complete then
          return (.error (.invalidLength (l.fields.length - (fs.length + 1)) l.expectation),
            b :: rest)
        else return (.ok acc, b :: rest)
      else if first then
        let (change, s) ← f.reader (b :: rest)
        readItems l false fs (change acc) s
      else if b = 44 then
        match skipBlank rest with
        | [] => failNext .eofValue []
        | c :: rest =>
          if c = 93 then failNext .trailingComma (c :: rest)
          else
            let (change, s) ← f.reader (c :: rest)
            readItems l false fs (change acc) s
      else failNext .expectedListCommaOrEnd (b :: rest)

def missing? (l : Layout σ) (met : List String) : Option String :=
  if l.complete then (l.fields.map (·.name)).find? (fun n => !met.contains n) else none

def readNamed (l : Layout σ) : (fuel : Nat) → (first : Bool) → (met : List String) → σ → Bytes →
    Except Failure (Except Issue σ × Bytes)
  | 0, _, _, _, s => failHere .expectedValue s
  | fuel + 1, first, met, acc, s => do
    match ← nextMember first s with
    | .close _ =>
      match l.missing? met with
      | some name => return (.error (.missingField name), s)
      | none => return (.ok acc, s)
    | .name s =>
      let (k, s) ← readStringBody s
      match l.fields.find? (·.name = k) with
      | none =>
        let s ← readColon s
        let s ← skipValue s
        readNamed l fuel false met acc s
      | some f =>
        if met.contains k then return (.error (.duplicateField k), s)
        else
          let s ← readColon s
          let (change, s) ← f.reader s
          readNamed l fuel false (k :: met) (change acc) s

def afterBrace (s : Bytes) : Bytes :=
  match skipBlank s with
  | b :: rest => if b = 125 then rest else b :: rest
  | [] => []

def read (l : Layout σ) : Reader σ := fun s =>
  match skipBlank s with
  | [] => failNext .eofValue []
  | b :: rest =>
    if b = 91 then do
      match ← l.readItems true l.fields l.start rest with
      | (.ok acc, s) => return (acc, ← closeArray s)
      | (.error issue, s) =>
        match closeArray s with
        | .ok s => failHere issue s
        | .error f => .error ⟨issue, f.remaining⟩
    else if b = 123 then do
      match ← l.readNamed (rest.length + 1) true [] l.start rest with
      | (.ok acc, s) => return (acc, afterBrace s)
      | (.error issue, s) => failHere issue (afterBrace s)
    else .error (mismatch s!"struct {l.name}" (b :: rest))

end Layout

def readVariant {α : Type} (known : List (String × α)) : Reader α := fun s =>
  let named : Reader α := fun s => do
    let (name, s) ← readStringBody s
    match known.lookup name with
    | some a => return (a, s)
    | none => failHere (.unknownVariant name (known.map (·.1))) s
  match skipBlank s with
  | [] => failNext .eofValue []
  | b :: rest =>
    if b = 34 then named rest
    else if b = 123 then
      match skipBlank rest with
      | [] => failNext .eofValue []
      | b :: rest =>
        if b = 34 then do
          let (a, s) ← named rest
          let s ← readColon s
          match skipBlank s with
          | [] => failNext .eofValue []
          | b :: rest =>
            if b = 110 then
              let s ← readWord [117, 108, 108] rest
              match skipBlank s with
              | [] => failHere .eofObject []
              | b :: rest =>
                if b = 125 then return (a, rest) else failHere .expectedValue (b :: rest)
            else .error (mismatch "unit" (b :: rest))
        else .error (mismatch "variant identifier" (b :: rest))
    else failNext .expectedValue (b :: rest)

end SchemaRegistry.Json
