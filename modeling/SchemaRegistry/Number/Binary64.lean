import SchemaRegistry.Number.Power

/-!
Finite binary floating point numbers of 64 bits, kept exactly as a whole number times a power of
two.  A quotient of whole numbers rounds to the nearest of them, a half to the even one.
-/

namespace SchemaRegistry

/-- The number `± mantissa * 2 ^ exponent`.  The mantissa has 53 bits, fewer only at the smallest
exponent, -1074; zero keeps its sign. -/
structure Binary64 where
  negative : Bool
  mantissa : Nat
  exponent : Int
  deriving DecidableEq, Repr

namespace Binary64

def inUnits (num den : Nat) (e : Int) : Nat × Nat :=
  if 0 ≤ e then (num, den * twoTo e.toNat) else (num * twoTo (-e).toNat, den)

/-- The whole number nearest to `num / den`; of two, the even one. -/
def nearest (num den : Nat) : Nat :=
  let q := num / den
  let r := num % den
  if den < 2 * r || (2 * r = den && q % 2 = 1) then q + 1 else q

def ofQuotient (num den : Nat) : Option Binary64 :=
  if num = 0 then some ⟨false, 0, -1074⟩
  else
    let low : Int := max (-1074) ((num.log2 : Int) - den.log2 - 53)
    let unit := inUnits num den low
    let e := if twoTo 53 ≤ unit.1 / unit.2 then low + 1 else low
    let unit := inUnits num den e
    let m := nearest unit.1 unit.2
    let (m, e) := if m = twoTo 53 then (twoTo 52, e + 1) else (m, e)
    if 971 < e then none else some ⟨false, m, e⟩

def toQuotient (x : Binary64) : Nat × Nat :=
  if 0 ≤ x.exponent then (x.mantissa * twoTo x.exponent.toNat, 1)
  else (x.mantissa, twoTo (-x.exponent).toNat)

def isZero (x : Binary64) : Bool := x.mantissa = 0

def zero : Binary64 := ⟨false, 0, -1074⟩

def mul (x y : Binary64) : Option Binary64 :=
  ofQuotient (x.toQuotient.1 * y.toQuotient.1) (x.toQuotient.2 * y.toQuotient.2)

def div (x y : Binary64) : Option Binary64 :=
  ofQuotient (x.toQuotient.1 * y.toQuotient.2) (x.toQuotient.2 * y.toQuotient.1)

def withSign (x : Binary64) (negative : Bool) : Binary64 := { x with negative := negative }

/-- Numerical equality: the two zeros are one number. -/
def same (x y : Binary64) : Bool := x = y || (x.isZero && y.isZero)

@[simp] theorem same_self (x : Binary64) : same x x = true := by simp [same]

theorem same_comm (x y : Binary64) : same x y = same y x := by
  by_cases h : x = y
  · subst h; rfl
  · simp [same, h, Ne.symm h, Bool.and_comm]

def round (x : Binary64) : Int :=
  let q := x.toQuotient
  let n : Nat := (2 * q.1 + q.2) / (2 * q.2)
  if x.negative then -(n : Int) else n

end Binary64

end SchemaRegistry
