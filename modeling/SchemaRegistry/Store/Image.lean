import SchemaRegistry.Store.Database

/-!
A database as the bytes of a file: its three tables one after the other, each as the number of its
entries and then keys and values in turn, all of them behind their lengths.
-/

namespace SchemaRegistry.Database.Image

def width : Nat := 8

def putBytes (bs : Bytes) : Bytes := Bytes.ofNat width bs.length ++ bs

def takeNat (bs : Bytes) : Option (Nat × Bytes) :=
  if bs.length < width then none else some (Bytes.toNat (bs.take width), bs.drop width)

def takeBytes (bs : Bytes) : Option (Bytes × Bytes) := do
  let (n, rest) ← takeNat bs
  if rest.length < n then none else some (rest.take n, rest.drop n)

def putEntries (es : List (String × Bytes)) : Bytes :=
  Bytes.ofNat width es.length ++ es.flatMap fun e => putBytes (utf8 e.1) ++ putBytes e.2

def takeEntries : (count : Nat) → Bytes → Option (List (String × Bytes) × Bytes)
  | 0, bs => some ([], bs)
  | count + 1, bs => do
    let (key, bs) ← takeBytes bs
    let (value, bs) ← takeBytes bs
    let (es, bs) ← takeEntries count bs
    return ((← ofUtf8? key, value) :: es, bs)

def takeTable (bs : Bytes) : Option (Table Bytes × Bytes) := do
  let (count, bs) ← takeNat bs
  let (es, bs) ← takeEntries count bs
  return (.ofList es, bs)

def takeTexts (bs : Bytes) : Option (Table String × Bytes) := do
  let (t, bs) ← takeTable bs
  let es ← t.entries.mapM fun e => return (e.1, ← ofUtf8? e.2)
  return (.ofList es, bs)

def encode (d : Database) : Bytes :=
  let texts (t : Table String) := t.entries.map fun e => (e.1, utf8 e.2)
  putEntries d.schemas.entries ++ putEntries (texts d.globalLevels) ++
    putEntries (texts d.subjectLevels)

/-- The database in a file; an empty file is an empty database. -/
def decode? (bs : Bytes) : Option Database := do
  if bs.isEmpty then return ∅
  let (schemas, bs) ← takeTable bs
  let (globalLevels, bs) ← takeTexts bs
  let (subjectLevels, bs) ← takeTexts bs
  if bs.isEmpty then return { schemas, globalLevels, subjectLevels } else none

end SchemaRegistry.Database.Image
