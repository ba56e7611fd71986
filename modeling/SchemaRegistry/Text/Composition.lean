import SchemaRegistry.Text.CompositionTable

/-!
Composed texts.  A letter with marks can be one character or several, and marks may stand in
different orders; of all such texts with one meaning the composed one has the fewest characters.
-/

namespace SchemaRegistry.Text

structure Composite where
  whole : Nat
  first : Nat
  second : Nat

def compositesOf (after : Nat) : List Nat → List Composite
  | gap :: first :: second :: rest =>
    ⟨after + gap, first, second⟩ :: compositesOf (after + gap) rest
  | _ => []

def composites : Array Composite :=
  (compositesOf 0 (hexNumbers (" ".intercalate compositionRuns).toList)).toArray

def compositeCodes : Array Nat := composites.map (·.whole)

def composite? (n : Nat) : Option Composite := do
  let c ← composites[countUpTo compositeCodes n - 1]?
  if c.whole = n then some c else none

def markClass (c : Char) : Nat := markClasses.get c

/-! Syllables of Hangul are made of a leading consonant, a vowel and perhaps a trailing consonant,
by their numbers. -/

def isSyllable (n : Nat) : Bool := 0xac00 ≤ n && n < 0xd7a4

def syllableParts (n : Nat) : List Nat :=
  let i := n - 0xac00
  let parts := [0x1100 + i / 588, 0x1161 + i % 588 / 28]
  if i % 28 = 0 then parts else parts ++ [0x11a7 + i % 28]

def syllable? (a b : Nat) : Option Nat :=
  if 0x1100 ≤ a && a < 0x1113 && 0x1161 ≤ b && b < 0x1176 then
    some (0xac00 + ((a - 0x1100) * 21 + (b - 0x1161)) * 28)
  else if isSyllable a && (a - 0xac00) % 28 = 0 && 0x11a7 < b && b < 0x11c3 then
    some (a + (b - 0x11a7))
  else none

/-- What a character is made of in the end; no composite is deeper than four. -/
def decomposeCode : (depth : Nat) → Nat → List Nat
  | 0, n => [n]
  | depth + 1, n =>
    if isSyllable n then syllableParts n
    else match composite? n with
      | some c => decomposeCode depth c.first ++ [c.second]
      | none => [n]

def decompose (cs : List Char) : List Char :=
  cs.flatMap fun c => (decomposeCode 4 c.toNat).map Char.ofNat

/-- Marks in a row in the order of their classes; marks of one class keep their order. -/
def orderMarks (cs : List Char) : List Char :=
  let sorted (marks : List Char) := marks.mergeSort fun a b => markClass a ≤ markClass b
  let (done, marks) := cs.foldl (fun (done, marks) c =>
    if markClass c = 0 then (c :: ((sorted marks.reverse).reverse ++ done), ([] : List Char))
    else (done, c :: marks)) (([] : List Char), ([] : List Char))
  done.reverse ++ sorted marks.reverse

def compose? (a b : Char) : Option Char :=
  (match syllable? a.toNat b.toNat with
    | some n => some n
    | none =>
      if b.toNat < 0x300 then none
      else
        (composites.find? fun (c : Composite) => c.first = a.toNat && c.second = b.toNat).map
          Composite.whole).map Char.ofNat

/-- What has been composed: all before the last letter, the letter, and the marks that stay behind
it; all but the letter in reverse. -/
structure Composing where
  done : List Char
  letter : Option Char
  marks : List Char

/-- A character joins the letter unless a mark between them keeps it away. -/
def Composing.step (s : Composing) (c : Char) : Composing :=
  let reaches := match s.marks with
    | [] => true
    | mark :: _ => markClass mark < markClass c
  match s.letter with
  | none => if markClass c = 0 then ⟨s.done, some c, []⟩ else ⟨c :: s.done, none, []⟩
  | some letter =>
    match if reaches then compose? letter c else none with
    | some whole => { s with letter := some whole }
    | none =>
      if markClass c = 0 then ⟨s.marks ++ letter :: s.done, some c, []⟩
      else { s with marks := c :: s.marks }

def composed (cs : List Char) : List Char :=
  let s := (orderMarks (decompose cs)).foldl Composing.step ⟨[], none, []⟩
  (s.marks ++ s.letter.toList ++ s.done).reverse

end SchemaRegistry.Text
