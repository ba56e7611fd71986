import SchemaRegistry.Log.Frame
import SchemaRegistry.Table

/-!
A log in memory, one list of keys and values per stream.  It is also what any other log is measured
by: offsets are dense from zero, and a fetch is a slice.
-/

namespace SchemaRegistry

structure MemoryLog where
  streams : Table (List (String × Bytes))
  deriving DecidableEq

namespace MemoryLog

instance : EmptyCollection MemoryLog := ⟨⟨∅⟩⟩

instance : Inhabited MemoryLog := ⟨∅⟩

def records (l : MemoryLog) (stream : String) : List (String × Bytes) :=
  (l.streams.get? stream).getD []

def length (l : MemoryLog) (stream : String) : Nat := (l.records stream).length

def numbered : (start : Nat) → List (String × Bytes) → List Entry
  | _, [] => []
  | n, (key, value) :: rest => ⟨n, key, value⟩ :: numbered (n + 1) rest

def append (l : MemoryLog) (stream key : String) (value : Bytes) : Nat × MemoryLog :=
  (l.length stream, ⟨l.streams.insert stream (l.records stream ++ [(key, value)])⟩)

def fetch (l : MemoryLog) (stream : String) (start max : Nat) : List Entry :=
  numbered start (((l.records stream).drop start).take max)

@[simp] theorem records_empty (stream : String) : (∅ : MemoryLog).records stream = [] := rfl

theorem records_append (l : MemoryLog) (stream key : String) (value : Bytes) (s : String) :
    (l.append stream key value).2.records s =
      if s = stream then l.records stream ++ [(key, value)] else l.records s := by
  simp only [append, records, Table.get?_insert]
  split <;> simp_all

end MemoryLog

end SchemaRegistry
