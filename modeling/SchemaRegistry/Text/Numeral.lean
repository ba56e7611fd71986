import SchemaRegistry.Number.Binary64

namespace SchemaRegistry.Text

def digits? (cs : List Char) : Option Nat :=
  if cs.isEmpty || !cs.all Char.isDigit then none
  else some (cs.foldl (fun n c => n * 10 + (c.toNat - 48)) 0)

def splitSign : List Char → Bool × List Char
  | '-' :: cs => (true, cs)
  | '+' :: cs => (false, cs)
  | cs => (false, cs)

def natural? (s : String) : Option Nat :=
  match s.toList with
  | '+' :: cs => digits? cs
  | cs => digits? cs

def integer? (s : String) : Option Int :=
  let (negative, cs) := splitSign s.toList
  (digits? cs).map fun n => if negative then -(n : Int) else n

inductive Real
  | finite (x : Binary64)
  | infinite (negative : Bool)
  | notANumber
  deriving DecidableEq, Repr

/-- `n * 10 ^ k`, rounded; infinite when it is too large. -/
def Real.ofDecimal (negative : Bool) (n : Nat) (k : Int) : Real :=
  -- beyond these powers every number is infinite, or zero
  let size : Int := k + (Nat.toDigits 10 n).length
  if n = 0 || size < -400 then .finite (Binary64.zero.withSign negative)
  else if 400 < size then .infinite negative
  else match Binary64.ofQuotient (n * tenTo k.toNat) (tenTo (-k).toNat) with
    | some x => .finite (x.withSign negative)
    | none => .infinite negative

/-- A decimal: digits with at most one point, at least one digit, then perhaps an exponent. -/
def decimal? (negative : Bool) (cs : List Char) : Option Real := do
  let whole := cs.takeWhile Char.isDigit
  let rest := cs.dropWhile Char.isDigit
  let (fraction, rest) := match rest with
    | '.' :: rest => (rest.takeWhile Char.isDigit, rest.dropWhile Char.isDigit)
    | _ => ([], rest)
  let n ← digits? (whole ++ fraction)
  let e ← match rest with
    | [] => some 0
    | c :: rest =>
      if c = 'e' || c = 'E' then
        let (down, rest) := splitSign rest
        (digits? rest).map fun e => if down then -(e : Int) else e
      else none
  return Real.ofDecimal negative n (e - fraction.length)

def real? (s : String) : Option Real :=
  let (negative, cs) := splitSign s.toList
  let word := String.ofList (cs.map Char.toLower)
  if word = "inf" || word = "infinity" then some (.infinite negative)
  else if word = "nan" then some .notANumber
  else decimal? negative cs

end SchemaRegistry.Text
