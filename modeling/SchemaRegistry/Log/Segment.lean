import SchemaRegistry.Disk.Node
import SchemaRegistry.Log.Error
import SchemaRegistry.Log.Stem
import SchemaRegistry.Log.StreamFile
import SchemaRegistry.Table

/-!
A log of segment files, one per stream, in a directory of its own.  A file is scanned when its
stream is first used; what is not intact is cut off.  The files can be changed behind the log's
back: the index does not notice, reads and writes do.
-/

namespace SchemaRegistry

structure Limits where
  fileSize : Option Nat
  handles : Option Nat
  deriving DecidableEq, Repr

namespace Limits

def none : Limits := ⟨.none, .none⟩

def exhausted (l : Limits) : Bool := l.handles = some 0

def room (l : Limits) (size n : Nat) : Nat :=
  match l.fileSize with
  | .none => n
  | some max => min n (max - size)

def canResize (l : Limits) (size n : Nat) : Bool :=
  n ≤ size || match l.fileSize with
    | .none => true
    | some max => n ≤ max

/-- What goes wrong when a frame is written: a write stores what fits and then fails. -/
def writeFault (l : Limits) (capacity : Nat) (content frame : Bytes) (acknowledged : Nat) :
    Option StreamFile.WriteFault :=
  let written := l.room content.length frame.length
  if written = frame.length then .none
  else
    let rollback :=
      if l.exhausted then some .noHandle
      else if l.canResize (content.length + written) acknowledged then .none
      else some .cannotCut
    some ⟨.fileTooLarge, written, if frame.length < capacity then frame.drop written else [],
      rollback⟩

end Limits

/-- An open stream.  Once its file has been removed, the file lives on with the stream alone. -/
structure OpenStream where
  file : StreamFile
  detached : Option Bytes
  deriving DecidableEq, Repr

structure SegmentLog where
  nodes : Table Node
  opened : Table OpenStream
  /-- Frames shorter than this are buffered before they are written. -/
  capacity : Nat
  limits : Limits
  deriving DecidableEq

namespace SegmentLog

def defaultCapacity : Nat := 64 * 1024

def ofNodes (nodes : Table Node) (capacity : Nat) : SegmentLog := ⟨nodes, ∅, capacity, .none⟩

def longestName : Nat := 255

def nameFits (name : String) : Bool := (utf8 name).length ≤ longestName

def readFile (l : SegmentLog) (name : String) : Except FileError Bytes :=
  if l.limits.exhausted then .error .tooManyOpen
  else if !nameFits name then .error .nameTooLong
  else match l.nodes.get? name with
    | none => .error .notFound
    | some .directory => .error .isDirectory
    | some (.file content) => .ok content

def openStream (l : SegmentLog) (stream : String) : Except FileError (OpenStream × SegmentLog) :=
  let name := Stem.fileName stream
  let found : Except FileError Bytes := match l.readFile name with
    | .error .notFound => .ok []
    | r => r
  match found with
  | .error e => .error e
  | .ok content =>
    let (file, intact) := StreamFile.ofContent content
    let s : OpenStream := ⟨file, none⟩
    .ok (s, { l with
      nodes := l.nodes.insert name (.file intact)
      opened := l.opened.insert stream s })

/-- The open stream of a name; a stream without a file is opened only if it is to be created. -/
def lookup (l : SegmentLog) (stream : String) (create : Bool) :
    Except LogError (Option OpenStream × SegmentLog) :=
  match l.opened.get? stream with
  | some s => .ok (some s, l)
  | none =>
    let name := Stem.fileName stream
    if !create && !(nameFits name && l.nodes.contains name) then .ok (none, l)
    else match l.openStream stream with
      | .error e => .error (.io stream (.file e))
      | .ok (s, l) => .ok (some s, l)

def contentOf (l : SegmentLog) (stream : String) (s : OpenStream) : Bytes :=
  match s.detached with
  | some content => content
  | none =>
    match l.nodes.get? (Stem.fileName stream) with
    | some (.file content) => content
    | _ => []

def put (l : SegmentLog) (stream : String) (s : OpenStream) (content : Bytes) : SegmentLog :=
  match s.detached with
  | some _ => { l with opened := l.opened.insert stream { s with detached := some content } }
  | none =>
    { l with
      nodes := l.nodes.insert (Stem.fileName stream) (.file content)
      opened := l.opened.insert stream s }

def appendTo (l : SegmentLog) (stream : String) (s : OpenStream) (key : String) (value : Bytes) :
    Except LogError Nat × SegmentLog :=
  let content := l.contentOf stream s
  let fault frame := l.limits.writeFault l.capacity content frame s.file.size
  match s.file.append content key value fault with
  | (.error .inconsistent, _) => (.error (.io stream .inconsistent), l)
  | (.error (.tooLarge size), _) => (.error (.tooLarge stream size), l)
  | (.error (.file e), file, content) =>
    (.error (.io stream (.file e)), l.put stream { s with file } content)
  | (.ok offset, file, content) => (.ok offset, l.put stream { s with file } content)

def append (l : SegmentLog) (stream key : String) (value : Bytes) :
    Except LogError Nat × SegmentLog :=
  match l.lookup stream true with
  | .error e => (.error e, l)
  | .ok (none, l) => (.error (.io stream (.file .notFound)), l)
  | .ok (some s, l) => l.appendTo stream s key value

/-- Decode `count` records, which must carry the offsets from `offset` on. -/
def decodeRange (stream : String) : (count offset : Nat) → Bytes → Except LogError (List Entry)
  | 0, _, _ => .ok []
  | count + 1, offset, data =>
    match Frame.decode data with
    | .error cause => .error (.corrupt stream offset (.frame cause))
    | .ok (e, n) =>
      if e.offset ≠ offset then .error (.corrupt stream offset (.offset e.offset))
      else do
        let rest ← decodeRange stream count (offset + 1) (data.drop n)
        return e :: rest

def readRange (l : SegmentLog) (stream : String) (low high : Nat) : Except LogError Bytes :=
  match l.readFile (Stem.fileName stream) with
  | .error e => .error (.io stream (.file e))
  | .ok content =>
    if content.length < high then .error (.io stream (.file .shortRead))
    else .ok ((content.take high).drop low)

def fetch (l : SegmentLog) (stream : String) (start max : Nat) :
    Except LogError (List Entry) × SegmentLog :=
  match l.lookup stream false with
  | .error e => (.error e, l)
  | .ok (none, l) => (.ok [], l)
  | .ok (some s, l) =>
    match s.file.range? start max with
    | none => (.ok [], l)
    | some (low, high, count) =>
      (l.readRange stream low high >>= decodeRange stream count start, l)

def endOffset (l : SegmentLog) (stream : String) : Except LogError Nat × SegmentLog :=
  match l.lookup stream false with
  | .error e => (.error e, l)
  | .ok (none, l) => (.ok 0, l)
  | .ok (some s, l) => (.ok s.file.positions.length, l)

/-- Close a stream: what is still buffered goes to the file, as far as it fits. -/
def closeStream (l : SegmentLog) (stream : String) (s : OpenStream) : SegmentLog :=
  if s.file.buffered.isEmpty then l
  else
    let content := l.contentOf stream s
    let n := l.limits.room content.length s.file.buffered.length
    l.put stream s (content ++ s.file.buffered.take n)

def reopen (l : SegmentLog) : SegmentLog :=
  let l := l.opened.entries.foldl (fun l e => l.closeStream e.1 e.2) l
  { l with opened := ∅ }

/-! The directory as others see it, who may change it at any time. -/

def files (l : SegmentLog) : List (String × Nat) :=
  l.nodes.entries.filterMap fun e =>
    match e.2 with
    | .file content => some (e.1, content.length)
    | .directory => none

def content? (l : SegmentLog) (name : String) : Option Bytes :=
  match l.nodes.get? name with
  | some (.file content) => some content
  | _ => none

def edit (l : SegmentLog) (name : String) (change : Bytes → Bytes) : SegmentLog :=
  { l with nodes := l.nodes.insert name (.file (change ((l.content? name).getD []))) }

def makeDirectory (l : SegmentLog) (name : String) : SegmentLog :=
  { l with nodes := l.nodes.insert name .directory }

/-- Remove a file.  A stream that is open on it keeps it to itself. -/
def remove (l : SegmentLog) (name : String) : SegmentLog :=
  let detach (l : SegmentLog) (e : String × OpenStream) : SegmentLog :=
    if Stem.fileName e.1 = name && e.2.detached.isNone then
      { l with opened := l.opened.insert e.1 { e.2 with detached := some (l.contentOf e.1 e.2) } }
    else l
  let l := l.opened.entries.foldl detach l
  { l with nodes := l.nodes.erase name }

end SegmentLog

end SchemaRegistry
