import SchemaRegistry.Text.Bytes

/-!
File names of streams.  Letters, digits, `-` and `_` stand for themselves and any other byte for `%`
and two hexadecimal digits, so a stream is recovered from its stem and no two share a file.
-/

namespace SchemaRegistry.Stem

def isPlain (b : UInt8) : Bool :=
  (97 ≤ b && b ≤ 122) || (65 ≤ b && b ≤ 90) || (48 ≤ b && b ≤ 57) || b = 45 || b = 95

def escape (b : UInt8) : List Char :=
  if isPlain b then [Char.ofNat b.toNat] else '%' :: Bytes.hexPair b

def chars (bs : Bytes) : List Char := bs.flatMap escape

def decode? : List Char → Option Bytes
  | [] => some []
  | '%' :: a :: b :: rest => do
    let a ← Bytes.hexValue? (UInt8.ofNat a.toNat)
    let b ← Bytes.hexValue? (UInt8.ofNat b.toNat)
    return UInt8.ofNat (a * 16 + b) :: (← decode? rest)
  | c :: rest => do
    if isPlain (UInt8.ofNat c.toNat) then return UInt8.ofNat c.toNat :: (← decode? rest) else none

def ofStream (stream : String) : String := String.ofList (chars (utf8 stream))

def fileName (stream : String) : String := ofStream stream ++ ".log"

end SchemaRegistry.Stem
