import SchemaRegistry.Disk.Basic
import SchemaRegistry.Log.Memory
import SchemaRegistry.Log.Segment

namespace SchemaRegistry

inductive Log
  | memory (log : MemoryLog)
  | segments (place : Place) (log : SegmentLog)

namespace Log

def append (l : Log) (stream key : String) (value : Bytes) : Except LogError Nat × Log :=
  match l with
  | memory l =>
    let (offset, l) := l.append stream key value
    (.ok offset, .memory l)
  | segments place l =>
    let (r, l) := l.append stream key value
    (r, .segments place l)

def fetch (l : Log) (stream : String) (start max : Nat) : Except LogError (List Entry) × Log :=
  match l with
  | memory l => (.ok (l.fetch stream start max), .memory l)
  | segments place l =>
    let (r, l) := l.fetch stream start max
    (r, .segments place l)

def endOffset (l : Log) (stream : String) : Except LogError Nat × Log :=
  match l with
  | memory l => (.ok (l.length stream), .memory l)
  | segments place l =>
    let (r, l) := l.endOffset stream
    (r, .segments place l)

def bound (l : Log) (stream : String) : Nat :=
  match (l.endOffset stream).1 with
  | .ok n => n
  | .error _ => 0

end Log

end SchemaRegistry
