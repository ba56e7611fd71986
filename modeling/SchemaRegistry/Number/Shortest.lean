import SchemaRegistry.Number.Binary64

/-!
The decimal text of a binary number: the fewest digits that round back to it, the nearest such
decimal where several have that length.
-/

namespace SchemaRegistry.Binary64

/-- Whether `d * 10 ^ k` rounds to the positive number `x`.  Half a unit on either side belongs to
`x` when its mantissa is even; below a power of two the unit is half as large. -/
def roundsTo (x : Binary64) (d : Nat) (k : Int) : Bool :=
  -- all in quarters of the unit `2 ^ exponent`
  let quarter : Int := x.exponent - 2
  let num := d * tenTo k.toNat * twoTo (-quarter).toNat
  let den := tenTo (-k).toNat * twoTo quarter.toNat
  let low := 4 * x.mantissa - (if x.mantissa = twoTo 52 && -1074 < x.exponent then 1 else 2)
  let high := 4 * x.mantissa + 2
  if x.mantissa % 2 = 0 then low * den ≤ num && num ≤ high * den
  else low * den < num && num < high * den

def leadingExponent (num den : Nat) : Int :=
  if den ≤ num then ((Nat.toDigits 10 (num / den)).length : Int) - 1
  else
    let rec below (fuel : Nat) (num : Nat) (e : Int) : Int :=
      match fuel with
      | 0 => e
      | fuel + 1 => if den ≤ num then e else below fuel (num * 10) (e - 1)
    below 400 num 0

def onGrid (x : Binary64) (k : Int) : Option Nat :=
  let q := x.toQuotient
  let num := q.1 * tenTo (-k).toNat
  let den := q.2 * tenTo k.toNat
  let d := num / den
  let lower := roundsTo x d k
  let upper := roundsTo x (d + 1) k
  if lower && upper then some (Binary64.nearest num den)
  else if lower then some d
  else if upper then some (d + 1)
  else none

def shortestFrom (x : Binary64) (lead : Int) : (fuel n : Nat) → Nat × Int
  | 0, n => (((onGrid x (lead + 1 - n)).getD 0), lead + 1 - n)
  | fuel + 1, n =>
    match onGrid x (lead + 1 - n) with
    | some d => (d, lead + 1 - n)
    | none => shortestFrom x lead fuel (n + 1)

def shortest (x : Binary64) : Nat × Int :=
  let q := x.toQuotient
  shortestFrom x (leadingExponent q.1 q.2) 17 1

def significant (d : Nat) (k : Int) : List Char × Int :=
  let all := Nat.toDigits 10 d
  ((all.reverse.dropWhile (· = '0')).reverse, k + all.length - 1)

/-- Positional from `10 ^ -5` to below `10 ^ 16`, always with a point; else with an exponent that
carries its sign. -/
def magnitudeText (x : Binary64) : List Char :=
  if x.isZero then "0.0".toList
  else
    let (d, k) := x.shortest
    let (ds, e) := significant d k
    if e < -5 || 15 < e then
      ds.take 1 ++ (if ds.length = 1 then [] else '.' :: ds.drop 1) ++
        ['e', if e < 0 then '-' else '+'] ++ Nat.toDigits 10 e.natAbs
    else if e < 0 then "0.".toList ++ List.replicate (e.natAbs - 1) '0' ++ ds
    else
      let whole := e.toNat + 1
      ds.take whole ++ List.replicate (whole - ds.length) '0' ++ '.' ::
        (if ds.length ≤ whole then ['0'] else ds.drop whole)

def plainText (x : Binary64) : String :=
  let magnitude :=
    if x.isZero then ['0']
    else
      let (d, k) := x.shortest
      let (ds, e) := significant d k
      if e < 0 then "0.".toList ++ List.replicate (e.natAbs - 1) '0' ++ ds
      else
        let whole := e.toNat + 1
        ds.take whole ++ List.replicate (whole - ds.length) '0' ++
          (if ds.length ≤ whole then [] else '.' :: ds.drop whole)
  String.ofList ((if x.negative then ['-'] else []) ++ magnitude)

def text (x : Binary64) : String :=
  String.ofList ((if x.negative then ['-'] else []) ++ x.magnitudeText)

end SchemaRegistry.Binary64
