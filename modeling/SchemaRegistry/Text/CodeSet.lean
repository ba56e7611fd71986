/-!
Sets of code points, and numbers given to code points.  Both are constant on long runs of code
points, so they are written down as the lengths of these runs, in hexadecimal.
-/

namespace SchemaRegistry.Text

def hexValue? (c : Char) : Option Nat :=
  if '0' ≤ c && c ≤ '9' then some (c.toNat - 48)
  else if 'a' ≤ c && c ≤ 'f' then some (c.toNat - 87)
  else none

/-- The hexadecimal numbers in a text; every other character separates them. -/
def hexNumbers (cs : List Char) : List Nat :=
  let (found, open?) := cs.foldl (fun (found, open?) c =>
    match hexValue? c, open? with
    | some d, some n => (found, some (n * 16 + d))
    | some d, none => (found, some d)
    | none, some n => (n :: found, none)
    | none, none => (found, none)) (([] : List Nat), (none : Option Nat))
  (open?.toList ++ found).reverse

def ends (lengths : List Nat) : Array Nat :=
  (lengths.foldl (fun (a, n) length => (a.push (n + length), n + length))
    ((#[] : Array Nat), 0)).1

def countBetween (a : Array Nat) (n : Nat) : (fuel low high : Nat) → Nat
  | 0, low, _ => low
  | fuel + 1, low, high =>
    if high ≤ low then low
    else
      let middle := (low + high) / 2
      if a.getD middle 0 ≤ n then countBetween a n fuel (middle + 1) high
      else countBetween a n fuel low middle

def countUpTo (a : Array Nat) (n : Nat) : Nat := countBetween a n (a.size + 1) 0 a.size

/-- A set of code points: the ends of the runs outside and inside it by turns, the first outside. -/
structure CodeSet where
  ends : Array Nat

def CodeSet.ofRuns (lines : List String) : CodeSet :=
  ⟨Text.ends (hexNumbers (" ".intercalate lines).toList)⟩

def CodeSet.contains (s : CodeSet) (c : Char) : Bool := countUpTo s.ends c.toNat % 2 = 1

/-- A number for every code point: the ends of runs, and the number given to each run. -/
structure CodeMap where
  ends : Array Nat
  values : Array Nat

def alternate : List Nat → List Nat
  | n :: _ :: rest => n :: alternate rest
  | ns => ns

def CodeMap.ofRuns (lines : List String) : CodeMap :=
  let numbers := hexNumbers (" ".intercalate lines).toList
  ⟨Text.ends (alternate numbers), (alternate numbers.tail).toArray⟩

def CodeMap.get (m : CodeMap) (c : Char) : Nat := m.values.getD (countUpTo m.ends c.toNat) 0

end SchemaRegistry.Text
