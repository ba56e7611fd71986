import SchemaRegistry.Text.Bytes

/-!
Percent encoding.  Each part of a URL has a set of ASCII characters that must not stand in it; they,
controls, and all bytes beyond ASCII are written as `%` and two digits.
-/

namespace SchemaRegistry.Percent

/-- The ASCII characters, besides controls, that are encoded in some part of a URL. -/
abbrev Reserved := List Char

namespace Reserved

def fragment : Reserved := [' ', '"', '<', '>', '\x60']
def query : Reserved := [' ', '"', '#', '<', '>']
def specialQuery : Reserved := '\'' :: query
def path : Reserved := fragment ++ ['#', '?', '\x7b', '\x7d']
def userInfo : Reserved := path ++ ['/', ':', ';', '=', '@', '[', '\\', ']', '^', '|']
def segment : Reserved := path ++ ['/', '%']
def specialSegment : Reserved := segment ++ ['\\']

end Reserved

def encodes (reserved : Reserved) (b : UInt8) : Bool :=
  b < 32 || 127 ≤ b || reserved.any fun c => c.toNat = b.toNat

def upperDigit (n : Nat) : Char := Char.ofNat (if n < 10 then 48 + n else 55 + n)

def encodeByte (reserved : Reserved) (b : UInt8) : List Char :=
  if encodes reserved b then ['%', upperDigit (b.toNat / 16), upperDigit (b.toNat % 16)]
  else [Char.ofNat b.toNat]

def encode (reserved : Reserved) (s : String) : String :=
  String.ofList ((utf8 s).flatMap (encodeByte reserved))

def decodeBytes : Bytes → Bytes
  | 37 :: a :: b :: rest =>
    match Bytes.hexValue? a, Bytes.hexValue? b with
    | some x, some y => UInt8.ofNat (x * 16 + y) :: decodeBytes rest
    | _, _ => 37 :: decodeBytes (a :: b :: rest)
  | b :: rest => b :: decodeBytes rest
  | [] => []

def decode? (s : String) : Option String := ofUtf8? (decodeBytes (utf8 s))

end SchemaRegistry.Percent
