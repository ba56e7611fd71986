import SchemaRegistry.Text.Bytes

/-!
CRC-32C, bit by bit: the remainder is shifted once per bit, and the polynomial is added when a one
falls out.  Shifting is linear over exclusive or, so a checksum depends on every bit.
-/

namespace SchemaRegistry.Crc32c

def polynomial : UInt32 := 0x82F63B78

def shift (s : UInt32) : UInt32 :=
  if s &&& 1 = 1 then (s >>> 1) ^^^ polynomial else s >>> 1

def step (s : UInt32) (b : UInt8) : UInt32 :=
  shift (shift (shift (shift (shift (shift (shift (shift (s ^^^ b.toUInt32))))))))

def remainder (s : UInt32) (bs : Bytes) : UInt32 := bs.foldl step s

def checksum (bs : Bytes) : UInt32 := remainder 0xFFFFFFFF bs ^^^ 0xFFFFFFFF

@[simp] theorem remainder_append (s : UInt32) (bs cs : Bytes) :
    remainder s (bs ++ cs) = remainder (remainder s bs) cs := List.foldl_append

end SchemaRegistry.Crc32c
