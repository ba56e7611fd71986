import SchemaRegistry.Domain.ClassTable
import SchemaRegistry.Text.Composition

/-!
What a label of a domain name may look like: how it starts, where characters without a width may
stand, and how it mixes characters that are written from the left and from the right.
-/

namespace SchemaRegistry.Domain

/-! Joiners.  A joiner stands behind a character that suppresses a vowel; the one that keeps
characters apart may also stand between two that would join. -/

def virama : Nat := 9

inductive Joining
  | none
  | left
  | right
  | dual
  | transparent
  deriving DecidableEq, Repr

def joining (c : Char) : Joining :=
  match joiningCodes.get c with
  | 1 => .left
  | 2 => .right
  | 3 => .dual
  | 4 => .transparent
  | _ => .none

/-- Whether the first character that is not transparent joins in this way or in both ways. -/
def joins (way : Joining) (cs : List Char) : Bool :=
  match cs.dropWhile (joining · = .transparent) with
  | [] => false
  | c :: _ => joining c = way || joining c = .dual

/-- Whether the joiners in a label have a reason; `before` is what precedes, in reverse. -/
def joinersFit (before : List Char) : List Char → Bool
  | [] => true
  | c :: cs =>
    (if c = '\u200c' || c = '\u200d' then
      match before with
      | [] => false
      | b :: _ => Text.markClass b =
        virama || (c = '\u200c' && joins .left before && joins .right cs)
    else true) && joinersFit (c :: before) cs

def longestLabel : Nat := 1000

def isLabel (cs : List Char) : Bool :=
  !cs.head?.any markCodes.contains && joinersFit [] cs && cs.length ≤ longestLabel

inductive Direction
  | left
  | right
  | arabicNumber
  | europeanNumber
  | mark
  | neutral
  | other
  deriving DecidableEq, Repr

def direction (c : Char) : Direction :=
  match directionCodes.get c with
  | 0 => .left
  | 1 => .right
  | 2 => .arabicNumber
  | 3 => .europeanNumber
  | 4 => .mark
  | 5 => .neutral
  | _ => .other

def hasRight (cs : List Char) : Bool :=
  cs.any fun c => direction c = .right || direction c = .arabicNumber

def directions (cs : List Char) : List Direction :=
  ((cs.map direction).reverse.dropWhile (· = .mark)).reverse

/-- Whether a label can stand in a name some of which is written from the right: it starts with a
letter, whose direction it keeps, and it has numbers of one kind only. -/
def keepsDirection (cs : List Char) : Bool :=
  match cs with
  | [] => true
  | c :: _ =>
    let ds := directions cs
    let last := ds.getLast?.getD .left
    match direction c with
    | .left =>
      (last = .left || last = .europeanNumber) &&
        ds.all fun d => d ≠ .right && d ≠ .arabicNumber && d ≠ .other
    | .right =>
      (last = .right || last = .europeanNumber || last = .arabicNumber) &&
        (ds.all fun d => d ≠ .left && d ≠ .other) &&
        !(ds.contains .europeanNumber && ds.contains .arabicNumber)
    | _ => false

end SchemaRegistry.Domain
