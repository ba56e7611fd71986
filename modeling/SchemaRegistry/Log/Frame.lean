import SchemaRegistry.Log.Crc32c
import SchemaRegistry.Text.Utf8

/-!
Frames: how a log entry is written to a file.  A frame is a magic number, the offset, the lengths of
key and value, the key, the value, and the checksum of all that.  A file is scanned frame by frame,
up to the first that is not intact or not the next in sequence.
-/

namespace SchemaRegistry

structure Entry where
  offset : Nat
  key : String
  value : Bytes
  deriving DecidableEq, Repr

namespace Frame

def magic : Nat := 0x534C4F47

def headerSize : Nat := 18

def checksumSize : Nat := 4

def leastSize : Nat := headerSize + checksumSize

inductive Fault
  | tooSmall
  | invalidMagic
  | truncated
  | checksum
  | key (cause : Utf8.Fault)
  deriving DecidableEq, Repr

def Fault.message : Fault → String
  | .tooSmall => "record too small"
  | .invalidMagic => "invalid magic"
  | .truncated => "record truncated"
  | .checksum => "CRC mismatch"
  | .key cause => s!"key is not UTF-8: {cause.message}"

def header (offset keyLength valueLength : Nat) : Bytes :=
  Bytes.ofNat 4 magic ++ Bytes.ofNat 8 offset ++ Bytes.ofNat 2 keyLength ++
    Bytes.ofNat 4 valueLength

def body (offset : Nat) (key value : Bytes) : Bytes :=
  header offset key.length value.length ++ key ++ value

def withChecksum (body : Bytes) : Bytes := body ++ Bytes.ofNat 4 (Crc32c.checksum body).toNat

/-- The frame of an entry, unless its key or its value is too long for the length field. -/
def encode? (e : Entry) : Option Bytes :=
  let key := utf8 e.key
  if key.length < 0x10000 ∧ e.value.length < 0x100000000 then
    some (withChecksum (body e.offset key e.value))
  else none

def field (data : Bytes) (start width : Nat) : Nat := Bytes.toNat ((data.drop start).take width)

def decode (data : Bytes) : Except Fault (Entry × Nat) :=
  if data.length < leastSize then .error .tooSmall
  else if field data 0 4 ≠ magic then .error .invalidMagic
  else
    let keyLength := field data 12 2
    let bodyEnd := headerSize + keyLength + field data 14 4
    if data.length < bodyEnd + checksumSize then .error .truncated
    else if (Crc32c.checksum (data.take bodyEnd)).toNat ≠ field data bodyEnd checksumSize then
      .error .checksum
    else
      match Utf8.decode ((data.drop headerSize).take keyLength) with
      | .error cause => .error (.key cause)
      | .ok key =>
        .ok (⟨field data 4 8, key, (data.take bodyEnd).drop (headerSize + keyLength)⟩,
          bodyEnd + checksumSize)

structure Scan where
  positions : List Nat
  size : Nat
  deriving DecidableEq, Repr

/-- Scan a file on from byte `size`, behind the frames found so far; `data` is what is left. -/
def scanFrom : (fuel : Nat) → Scan → Bytes → Scan
  | 0, found, _ => found
  | fuel + 1, found, data =>
    match decode data with
    | .error _ => found
    | .ok (e, n) =>
      if e.offset = found.positions.length then
        scanFrom fuel ⟨found.positions ++ [found.size], found.size + n⟩ (data.drop n)
      else found

def scan (data : Bytes) : Scan := scanFrom data.length ⟨[], 0⟩ data

end Frame

end SchemaRegistry
