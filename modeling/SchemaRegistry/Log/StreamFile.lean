import SchemaRegistry.Disk.Error
import SchemaRegistry.Log.Frame

/-!
The file of one stream, open for appending.  The index remembers where every acknowledged record
starts and how many bytes they take together.  An append that fails is rolled back by cutting the
file to that size; when even that fails, the file takes no more appends until it is opened again.
-/

namespace SchemaRegistry

structure StreamFile where
  positions : List Nat
  size : Nat
  /-- An append failed and could not be rolled back. -/
  refused : Bool
  /-- Bytes of that append which have not reached the file. -/
  buffered : Bytes
  deriving DecidableEq, Repr

namespace StreamFile

inductive Stuck
  | noHandle
  | cannotCut
  deriving DecidableEq, Repr

/-- A failed write: its cause, the bytes of the frame in the file, the bytes of it still in the
buffer, and whether the rollback fails too. -/
structure WriteFault where
  cause : FileError
  written : Nat
  buffered : Bytes
  rollback : Option Stuck
  deriving DecidableEq, Repr

def resize (content : Bytes) (n : Nat) : Bytes :=
  content.take n ++ List.replicate (n - content.length) 0

/-- The index of a file, and the file without what follows its last intact record. -/
def ofContent (content : Bytes) : StreamFile × Bytes :=
  let found := Frame.scan content
  (⟨found.positions, found.size, false, []⟩, content.take found.size)

inductive Refusal
  | inconsistent
  | tooLarge (size : Nat)
  | file (cause : FileError)
  deriving DecidableEq, Repr

def write (f : StreamFile) (content frame : Bytes) (fault : Option WriteFault) :
    Except FileError Nat × StreamFile × Bytes :=
  match fault with
  | none =>
    (.ok f.positions.length,
      { f with positions := f.positions ++ [f.size], size := f.size + frame.length },
      content ++ frame)
  | some w =>
    let content := content ++ frame.take w.written
    match w.rollback with
    | none => (.error w.cause, f, resize content f.size)
    | some .noHandle =>
      (.error w.cause, { f with refused := true, buffered := w.buffered }, content)
    | some .cannotCut => (.error w.cause, { f with refused := true }, content)

/-- Append a record under the next offset; `fault` is what happens to a frame that is written. -/
def append (f : StreamFile) (content : Bytes) (key : String) (value : Bytes)
    (fault : Bytes → Option WriteFault) : Except Refusal Nat × StreamFile × Bytes :=
  if f.refused then (.error .inconsistent, f, content)
  else match Frame.encode? ⟨f.positions.length, key, value⟩ with
    | none => (.error (.tooLarge ((utf8 key).length + value.length)), f, content)
    | some frame =>
      let (r, f, content) := f.write content frame (fault frame)
      (r.mapError .file, f, content)

def range? (f : StreamFile) (start max : Nat) : Option (Nat × Nat × Nat) :=
  let total := f.positions.length
  if max = 0 then none
  else
    let last := min total (start + max)
    match f.positions[start]? with
    | none => none
    | some low => some (low, (f.positions[last]?).getD f.size, last - start)

end StreamFile

end SchemaRegistry
