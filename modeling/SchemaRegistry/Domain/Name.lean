import SchemaRegistry.Domain.Label
import SchemaRegistry.Domain.Mapping
import SchemaRegistry.Domain.Punycode
import SchemaRegistry.Text.Split

/-!
Names of domains in ASCII.  A label with characters beyond ASCII is written as the prefix `xn--` and
its encoded form; a label that has the prefix already must be what such a label is written as.
-/

namespace SchemaRegistry.Domain

def isSeparator (c : Char) : Bool :=
  c.toNat ≤ 32 || c.toNat = 127 ||
    ['%', '#', '/', ':', '<', '>', '?', '@', '[', '\\', ']', '^', '|'].contains c

def isAscii (c : Char) : Bool := c.toNat < 128

def mark : List Char := ['x', 'n', '-', '-']

structure Label where
  reading : List Char
  written : List Char

def decoded? (encoded : List Char) : Option Label := do
  let reading ← Punycode.decode? encoded
  if reading.all isAscii || !reading.all isPlain || reading.any isSeparator ||
    Text.composed reading ≠ reading || !isLabel reading then none
  else some ⟨reading, mark ++ encoded⟩

def label? (cs : List Char) : Option Label :=
  if mark.isPrefixOf cs then decoded? (cs.drop mark.length)
  else if cs.all isAscii then some ⟨cs, cs⟩
  else if isLabel cs then some ⟨cs, mark ++ Punycode.encode cs⟩
  else none

def toAscii? (name : List Char) : Option (List Char) := do
  let cs ← plain? name
  if cs.any isSeparator then none
  else
    let labels ← (Text.pieces '.' cs).mapM label?
    if (labels.any fun l => hasRight l.reading) &&
        !labels.all fun l => keepsDirection l.reading then none
    else some (['.'].intercalate (labels.map (·.written)))

end SchemaRegistry.Domain
