/-!
Punycode: a label with characters beyond ASCII as letters, digits and hyphens.  The characters are
inserted in the order of their code points, each by its distance from the one before, in a mixed
base that adapts to the distances.
-/

namespace SchemaRegistry.Punycode

def digit (n : Nat) : Char := Char.ofNat (if n < 26 then 97 + n else 22 + n)

def digitValue? (c : Char) : Option Nat :=
  let n := c.toNat
  if 97 ≤ n && n ≤ 122 then some (n - 97)
  else if 65 ≤ n && n ≤ 90 then some (n - 65)
  else if 48 ≤ n && n ≤ 57 then some (n - 22)
  else none

/-- The base of the digit at position `k`, counted in steps of 36. -/
def threshold (bias k : Nat) : Nat := max 1 (min 26 (k - bias))

def reduce : (fuel delta k : Nat) → Nat × Nat
  | 0, delta, k => (delta, k)
  | fuel + 1, delta, k => if 455 < delta then reduce fuel (delta / 35) (k + 36) else (delta, k)

def adapt (delta count : Nat) (first : Bool) : Nat :=
  let delta := if first then delta / 700 else delta / 2
  let (delta, k) := reduce 20 (delta + delta / count) 0
  k + 36 * delta / (delta + 38)

def digits (bias : Nat) : (fuel q k : Nat) → List Char
  | 0, _, _ => []
  | fuel + 1, q, k =>
    let t := threshold bias k
    if q < t then [digit q]
    else digit (t + (q - t) % (36 - t)) :: digits bias fuel ((q - t) / (36 - t)) (k + 36)

structure Progress where
  delta : Nat
  bias : Nat
  handled : Nat
  output : List Char

def encodePoint (basic n : Nat) (label : List Nat) (p : Progress) : Progress :=
  label.foldl (fun p c =>
    if c < n then { p with delta := p.delta + 1 }
    else if c = n then
      { delta := 0
        bias := adapt p.delta (p.handled + 1) (p.handled = basic)
        handled := p.handled + 1
        output := p.output ++ digits p.bias 64 p.delta 36 }
    else p) p

def distinct (points : List Nat) : List Nat :=
  (points.mergeSort (· ≤ ·)).foldr (fun p ps => if ps.head? = some p then ps else p :: ps) []

def encode (label : List Char) : List Char :=
  let points := label.map Char.toNat
  let basic := label.filter (·.toNat < 128)
  let start : Progress := ⟨0, 72, basic.length, if basic.isEmpty then [] else basic ++ ['-']⟩
  let (_, p) := (distinct (points.filter (128 ≤ ·))).foldl (fun (n, p) m =>
    let p := { p with delta := p.delta + (m - n) * (p.handled + 1) }
    let p := encodePoint basic.length m points p
    (m + 1, { p with delta := p.delta + 1 })) (128, start)
  p.output

def bound : Nat := 0x100000000

def number? (bias : Nat) : (k weight sum : Nat) → List Char → Option (Nat × List Char)
  | _, _, _, [] => none
  | k, weight, sum, c :: cs => do
    let d ← digitValue? c
    let t := threshold bias k
    let sum := sum + d * weight
    if bound ≤ sum then none
    else if d < t then some (sum, cs)
    else if bound ≤ weight * (36 - t) then none
    else number? bias (k + 36) (weight * (36 - t)) sum cs

def insertAll : (fuel : Nat) → (first : Bool) → (n i bias : Nat) → (output digits : List Char) →
    Option (List Char)
  | 0, _, _, _, _, output, _ => some output
  | _ + 1, _, _, _, _, output, [] => some output
  | fuel + 1, first, n, i, bias, output, cs => do
    let (sum, rest) ← number? bias 36 1 i cs
    let count := output.length + 1
    let n := n + sum / count
    let place := sum % count
    if 0x10ffff < n || (0xd800 ≤ n && n < 0xe000) then none
    else
      let output := output.take place ++ Char.ofNat n :: output.drop place
      insertAll fuel false n (place + 1) (adapt (sum - i) count first) output rest

def longest : Nat := 2000

def decode? (encoded : List Char) : Option (List Char) :=
  let behind := (encoded.reverse.takeWhile (· ≠ '-')).reverse
  let before := encoded.take (encoded.length - behind.length - 1)
  if longest < encoded.length || encoded.head? = some '-' && before.isEmpty ||
    !before.all (·.toNat < 128) then none
  else insertAll (encoded.length + 1) true 128 0 72 before behind

end SchemaRegistry.Punycode
