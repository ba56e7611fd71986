import SchemaRegistry.Domain.Name
import SchemaRegistry.Url.Error
import SchemaRegistry.Url.Percent

/-!
Hosts of URLs, as they are written: domain names in ASCII and lower case, numeric addresses in one
form each.
-/

namespace SchemaRegistry.Host

/-! Addresses of four bytes.  A part may be octal or hexadecimal, and the last one fills what the
others leave. -/

def numberParts (part : List Char) : Nat × List Char :=
  match part with
  | '0' :: x :: rest => if x = 'x' || x = 'X' then (16, rest) else (8, x :: rest)
  | _ => (10, part)

/-- A part as a number; no digits behind a sign of their base are zero. -/
def number? (part : List Char) : Option Nat :=
  if part.isEmpty then none
  else
    let (base, digits) := numberParts part
    digits.foldlM (fun n c => do
      let d ← Bytes.hexValue? (UInt8.ofNat c.toNat)
      if c.toNat < 128 && d < base then some (n * base + d) else none) 0

def dotted (s : List Char) : List (List Char) :=
  let parts := Text.pieces '.' s
  if 1 < parts.length && parts.getLast? = some [] then parts.dropLast else parts

def endsInNumber (s : List Char) : Bool :=
  match (dotted s).getLast? with
  | none => false
  | some last => (!last.isEmpty && last.all Char.isDigit) ||
      (((last.take 2 = ['0', 'x']) || (last.take 2 = ['0', 'X'])) && (number? last).isSome)

def ipv4? (s : List Char) : Option (List Nat) := do
  let parts := dotted s
  if 4 < parts.length then none
  else
    let numbers ← parts.mapM number?
    let last ← numbers.getLast?
    let high := numbers.dropLast
    if high.any (255 < ·) || Nat.pow 256 (4 - high.length) ≤ last then none
    else
      let rest := (List.range (4 - high.length)).reverse.map fun i => last / Nat.pow 256 i % 256
      some (high ++ rest)

def ipv4Text (bytes : List Nat) : String := ".".intercalate (bytes.map toString)

def hexPiece? (s : List Char) : Option Nat :=
  if s.isEmpty || 4 < s.length then none
  else s.foldlM (fun n c => do
    if c.toNat < 128 then some (n * 16 + (← Bytes.hexValue? (UInt8.ofNat c.toNat))) else none) 0

/-- Four decimal bytes, written without needless zeros, as two pieces. -/
def embedded? (s : List Char) : Option (List Nat) := do
  let bytes ← (Text.pieces '.' s).mapM fun part =>
    if part.isEmpty || !part.all Char.isDigit || (1 < part.length && part.head? = some '0') ||
      3 < part.length then none
    else (number? part).filter (· ≤ 255)
  match bytes with
  | [a, b, c, d] => some [a * 256 + b, c * 256 + d]
  | _ => none

/-- Pieces between colons; the last may be four decimal bytes. -/
def hexPieces? (s : List Char) : Option (List Nat) :=
  if s.isEmpty then some []
  else
    let parts := Text.pieces ':' s
    match parts.getLast? with
    | none => none
    | some last => do
      let high ← parts.dropLast.mapM hexPiece?
      if last.contains '.' then return high ++ (← embedded? last)
      else return high ++ [← hexPiece? last]

def gap : List Char → Option (List Char × List Char)
  | ':' :: ':' :: rest => some ([], rest)
  | c :: cs => (gap cs).map fun (before, behind) => (c :: before, behind)
  | [] => none

def ipv6? (s : List Char) : Option (List Nat) :=
  match gap s with
  | none => (hexPieces? s).filter (·.length = 8)
  | some (before, behind) => do
    if before.contains '.' then none
    else
      let high ← hexPieces? before
      let low ← hexPieces? behind
      if 7 < high.length + low.length then none
      else some (high ++ List.replicate (8 - high.length - low.length) 0 ++ low)

/-- The first longest run of at least two zeros: its start and length. -/
def zeroRun (pieces : List Nat) : Nat × Nat :=
  let runs := (List.range pieces.length).map fun i =>
    (i, ((pieces.drop i).takeWhile (· = 0)).length)
  runs.foldl (fun best r => if best.2 < r.2 && 1 < r.2 then r else best) (0, 0)

def hexText (n : Nat) : String := String.ofList (Nat.toDigits 16 n)

def ipv6Text (pieces : List Nat) : String :=
  let (start, length) := zeroRun pieces
  let colons (ps : List Nat) := ":".intercalate (ps.map hexText)
  if length = 0 then colons pieces
  else colons (pieces.take start) ++ "::" ++ colons (pieces.drop (start + length))

def bracketed (s : List Char) : Except UrlError String :=
  if s.getLast? ≠ some ']' || s.length < 2 then .error .invalidIpv6
  else match ipv6? (s.drop 1).dropLast with
    | some pieces => .ok ("[" ++ ipv6Text pieces ++ "]")
    | none => .error .invalidIpv6

def special (s : String) : Except UrlError String :=
  if s.toList.head? = some '[' then bracketed s.toList
  else match (Percent.decode? s).bind fun decoded => Domain.toAscii? decoded.toList with
    | none => .error .invalidDomain
    | some name =>
      if name.isEmpty then .error .emptyHost
      else if endsInNumber name then
        match ipv4? name with
        | some bytes => .ok (ipv4Text bytes)
        | none => .error .invalidIpv4
      else .ok (String.ofList name)

def forbiddenInOpaque : List Char :=
  ['\x00', '\t', '\n', '\r', ' ', '#', '/', ':', '<', '>', '?', '@', '[', '\\', ']', '^', '|']

def plain (s : String) : Except UrlError String :=
  if s.toList.head? = some '[' then bracketed s.toList
  else if s.toList.any forbiddenInOpaque.contains then .error .invalidCharacter
  else .ok (Percent.encode [] s)

end SchemaRegistry.Host
