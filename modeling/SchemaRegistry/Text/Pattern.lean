import SchemaRegistry.Text.Alphanumeric
import SchemaRegistry.Text.Blank

/-!
Patterns: regular expressions as far as they can be built without tables of the scripts.  Only
whether a text is a pattern matters here, not what it matches.  Groups, classes and repetitions may
be nested up to a limit, so every part is known by its depth.
-/

namespace SchemaRegistry.Pattern

def deepest : Nat := 250

structure Flags where
  /-- Blanks and comments between the parts are skipped. -/
  spaced : Bool
  anyCase : Bool
  /-- Classes and edges of words are about ASCII only. -/
  ascii : Bool
  deriving DecidableEq, Repr

namespace Flags

def skipSpaced : (inComment : Bool) → List Char → List Char
  | _, [] => []
  | true, c :: cs => skipSpaced (c ≠ '\n') cs
  | false, c :: cs =>
    if c = '#' then skipSpaced true cs
    else if Text.isBlank c then skipSpaced false cs
    else c :: cs

def skip (f : Flags) (cs : List Char) : List Char := if f.spaced then skipSpaced false cs else cs

/-- The character that comes next; of a comment ahead only the sign is skipped. -/
def peek (f : Flags) (cs : List Char) : Option Char :=
  if !f.spaced then cs.head?
  else
    let ahead := cs.dropWhile Text.isBlank
    let ahead := if ahead.head? = some '#' then ahead.tail.dropWhile Text.isBlank else ahead
    ahead.head?.or cs.head?

def knowsCase (f : Flags) : Bool := f.ascii || !f.anyCase

/-- The flags after some are set and, behind a hyphen, others are unset. -/
def change (f : Flags) (items : List Char) : Flags :=
  let set := items.takeWhile (· ≠ '-')
  let holds (flag : Char) (before : Bool) : Bool :=
    set.contains flag || (before && !items.contains flag)
  ⟨holds 'x' f.spaced, holds 'i' f.anyCase, !holds 'u' (!f.ascii)⟩

end Flags

inductive Atom
  /-- A character; `isByte` when it is written as one byte. -/
  | literal (c : Char) (isByte : Bool)
  | set (negated : Bool)
  | anchor
  | edge
  | any
  deriving DecidableEq, Repr

namespace Atom

/-- Whether an atom can be built: it needs no table, and matches whole characters only. -/
def fits (f : Flags) : Atom → Bool
  | literal c isByte => if f.ascii then !(isByte && 0x7f < c.toNat) else !f.anyCase
  | set negated => f.ascii && !negated
  | anchor => true
  | edge => f.ascii
  | any => !f.ascii

def fitsClass (f : Flags) : Atom → Bool
  | literal c _ => if f.ascii then c.toNat < 0x80 else !f.anyCase
  | set negated => f.ascii && !negated
  | _ => false

end Atom

def hexValue? (c : Char) : Option Nat :=
  let n := c.toNat
  if 48 ≤ n && n ≤ 57 then some (n - 48)
  else if 97 ≤ n && n ≤ 102 then some (n - 87)
  else if 65 ≤ n && n ≤ 70 then some (n - 55)
  else none

def hex (f : Flags) : (count value : Nat) → List Char → Option (Nat × List Char)
  | 0, n, cs => some (n, f.skip cs)
  | count + 1, n, cs =>
    match f.skip cs with
    | [] => none
    | c :: cs => do hex f count (n * 16 + (← hexValue? c)) cs

def named : List (Char × Char) :=
  [('a', '\x07'), ('f', '\x0c'), ('t', '\t'), ('n', '\n'), ('r', '\r'), ('v', '\x0b')]

def escape (f : Flags) : List Char → Option (Atom × List Char)
  | [] => none
  | c :: cs =>
    let byCode (count : Nat) : Option (Atom × List Char) := do
      let (n, cs) ← hex f count 0 cs
      if n.isValidChar then some (.literal (Char.ofNat n) (count = 2), cs) else none
    if c = 'x' then byCode 2
    else if c = 'u' then byCode 4
    else if c = 'U' then byCode 8
    else if ['d', 's', 'w'].contains c then some (.set false, cs)
    else if ['D', 'S', 'W'].contains c then some (.set true, cs)
    else if ['b', 'B', '<', '>'].contains c then some (.edge, cs)
    else if ['A', 'z'].contains c then some (.anchor, cs)
    else match named.lookup c with
      | some c => some (.literal c false, cs)
      | none => if c.isAlphanum || 0x7f < c.toNat then none else some (.literal c false, cs)

/-- A class so far: the items since the last operator, how deep they are, and how deep what is left
of the operator is. -/
structure Class where
  items : Nat
  depth : Nat
  left : Option Nat

namespace Class

def empty : Class := ⟨0, 0, none⟩

def add (k : Class) (depth : Nat) : Class :=
  { k with items := k.items + 1, depth := max k.depth depth }

def total (k : Class) : Nat :=
  let right := if k.items ≤ 1 then k.depth else k.depth + 1
  match k.left with
  | none => right
  | some left => max left right + 1

def operator (k : Class) : Class := ⟨0, 0, some k.total⟩

def hyphens (f : Flags) : (fuel : Nat) → Class → List Char → Class × List Char
  | fuel + 1, k, '-' :: cs => hyphens f fuel (k.add 0) (f.skip cs)
  | _, k, cs => (k, cs)

/-- The start of a class behind its bracket, where hyphens and a closing bracket stand for
themselves. -/
def start (f : Flags) (cs : List Char) : Option (Class × List Char) :=
  let cs := f.skip cs
  let (negated, cs) := if cs.head? = some '^' then (true, f.skip cs.tail) else (false, cs)
  let (k, cs) := hyphens f cs.length empty cs
  let (k, cs) := if k.items = 0 && cs.head? = some ']' then (k.add 0, f.skip cs.tail) else (k, cs)
  if cs.isEmpty || (negated && f.ascii) || (0 < k.items && !f.knowsCase) then none else some (k, cs)

def names : List String := ["alnum", "alpha", "ascii", "blank", "cntrl", "digit", "graph", "lower",
  "print", "punct", "space", "upper", "word", "xdigit"]

/-- A class by its name between colons, behind its bracket; whether it is negated. -/
def named? : List Char → Option (Bool × List Char)
  | ':' :: cs =>
    let (negated, cs) := if cs.head? = some '^' then (true, cs.tail) else (false, cs)
    let name := cs.takeWhile (· ≠ ':')
    match cs.drop name.length with
    | ':' :: ']' :: rest =>
      if names.contains (String.ofList name) then some (negated, rest) else none
    | _ => none
  | _ => none

def atom (f : Flags) : List Char → Option (Atom × List Char)
  | [] => none
  | '\\' :: cs => escape f cs
  | c :: cs => some (.literal c false, cs)

def item (f : Flags) (cs : List Char) : Option (List Char) := do
  let (a, cs) ← atom f cs
  let cs := f.skip cs
  match cs with
  | [] => none
  | c :: more =>
    if c ≠ '-' || f.peek more = some ']' || f.peek more = some '-' then
      if a.fitsClass f then some cs else none
    else
      let (b, cs) ← atom f (f.skip more)
      match a, b with
      | .literal x _, .literal y _ =>
        if x ≤ y && a.fitsClass f && b.fitsClass f then some cs else none
      | _, _ => none

/-- The rest of a class within others; its depth. -/
def read (f : Flags) : (fuel : Nat) → Class → (outer : List Class) → List Char →
    Option (Nat × List Char)
  | 0, _, _, _ => none
  | fuel + 1, k, outer, cs =>
    match f.skip cs with
    | [] => none
    | '[' :: cs =>
      match named? cs with
      | some (negated, cs) =>
        if f.knowsCase && !(negated && f.ascii) then read f fuel (k.add 0) outer cs else none
      | none => do
        let (inner, cs) ← start f cs
        read f fuel inner (k :: outer) cs
    | ']' :: cs =>
      match outer with
      | [] => some (k.total + 1, cs)
      | around :: outer => read f fuel (around.add (k.total + 1)) outer cs
    | '&' :: '&' :: cs => read f fuel k.operator outer cs
    | '-' :: '-' :: cs => read f fuel k.operator outer cs
    | '~' :: '~' :: cs => read f fuel k.operator outer cs
    | cs => do read f fuel (k.add 0) outer (← item f cs)

end Class

/-- Parts in a row, and the rows of which one is to match: how deep the rows before the last bar
are, how many parts are behind it, how deep all but the last of them are, and how deep the last one
is if it can be repeated. -/
structure Rows where
  before : Option Nat
  parts : Nat
  depth : Nat
  last : Option Nat

namespace Rows

def empty : Rows := ⟨none, 0, 0, none⟩

def row (r : Rows) : Nat :=
  let depth := max r.depth (r.last.getD 0)
  if r.parts ≤ 1 then depth else depth + 1

def total (r : Rows) : Nat :=
  match r.before with
  | none => r.row
  | some before => max before r.row + 1

def add (r : Rows) (part : Option Nat) : Rows :=
  { r with parts := r.parts + 1, depth := max r.depth (r.last.getD 0), last := part }

def bar (r : Rows) : Rows := { empty with before := some (max (r.before.getD 0) r.row) }

end Rows

/-- What has been read: the flags that hold, the rows of the open group, the groups around it with
the flags that hold again behind the inner one, and the names of groups. -/
structure State where
  flags : Flags
  rows : Rows
  outer : List (Flags × Rows)
  names : List (List Char)

namespace State

def add (s : State) (depth : Nat) : State := { s with rows := s.rows.add (some depth) }

def enter (s : State) (f : Flags) : State :=
  { s with flags := f, rows := .empty, outer := (s.flags, s.rows) :: s.outer }

def leave (s : State) : Option State :=
  match s.outer with
  | [] => none
  | (f, r) :: outer => some { s with flags := f, rows := r.add (some (s.rows.total + 1)), outer }

def enterNamed (s : State) (cs : List Char) : Option (State × List Char) :=
  let name := cs.takeWhile (· ≠ '>')
  match name, cs.drop name.length with
  | first :: rest, '>' :: cs =>
    if (first = '_' || Text.isAlphabetic first) &&
      (rest.all fun c => ['_', '.', '[', ']'].contains c || Text.isAlphanumeric c) &&
      !s.names.contains name then
      some ({ s.enter s.flags with names := name :: s.names }, cs)
    else none
  | _, _ => none

def changes (cs : List Char) : Option (List Char) :=
  let items := cs.takeWhile fun c => c ≠ ':' && c ≠ ')'
  if items.all (['i', 'm', 's', 'U', 'u', 'R', 'x', '-'].contains ·) && items.Nodup &&
    items.getLast? ≠ some '-' then some items
  else none

def group (s : State) (cs : List Char) : Option (State × List Char) :=
  match s.flags.skip cs with
  | '?' :: 'P' :: '<' :: cs => s.enterNamed cs
  | '?' :: '<' :: cs =>
    if cs.head? = some '=' || cs.head? = some '!' then none else s.enterNamed cs
  | '?' :: cs => do
    let items ← changes cs
    let f := s.flags.change items
    match cs.drop items.length with
    | ':' :: cs => some (s.enter f, cs)
    | ')' :: cs =>
      if items.isEmpty then none else some ({ s with flags := f, rows := s.rows.add none }, cs)
    | _ => none
  | cs => some (s.enter s.flags, cs)

/-- The part in front is repeated; a question mark behind asks for few. -/
def repeated (s : State) (cs : List Char) : Option (State × List Char) := do
  let depth ← s.rows.last
  let cs := if cs.head? = some '?' then cs.tail else cs
  return ({ s with rows := { s.rows with last := some (depth + 1) } }, cs)

def atom (s : State) (a : Atom) (cs : List Char) : Option (State × List Char) :=
  if a.fits s.flags then some (s.add 0, cs) else none

def step (s : State) (c : Char) (cs : List Char) : Option (State × List Char) :=
  if c = '(' then s.group cs
  else if c = ')' then do return (← s.leave, cs)
  else if c = '|' then some ({ s with rows := s.rows.bar }, cs)
  else if c = '[' then do
    let (k, cs) ← Class.start s.flags cs
    let (depth, cs) ← Class.read s.flags (cs.length + 1) k [] cs
    return (s.add depth, cs)
  else if c = '?' || c = '*' || c = '+' then s.repeated cs
  else if c = '\x7b' then none
  else if c = '\\' then do
    let (a, cs) ← escape s.flags cs
    s.atom a cs
  else if c = '^' || c = '$' then s.atom .anchor cs
  else if c = '.' then s.atom .any cs
  else s.atom (.literal c false) cs

def read : (fuel : Nat) → State → List Char → Option State
  | 0, _, _ => none
  | fuel + 1, s, cs =>
    match s.flags.skip cs with
    | [] => some s
    | c :: cs => do
      let (s, cs) ← s.step c cs
      read fuel s cs

end State

/-- Whether a text without closing braces, and so without counted repetitions, is a pattern. -/
def isPattern (cs : List Char) : Bool :=
  match State.read (cs.length + 1) ⟨⟨false, false, false⟩, .empty, [], []⟩ cs with
  | some s => s.outer.isEmpty && s.rows.total ≤ deepest
  | none => false

end SchemaRegistry.Pattern
