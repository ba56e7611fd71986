import SchemaRegistry.Number.Shortest
import SchemaRegistry.Text.Lower
import SchemaRegistry.Text.Numeral
import SchemaRegistry.Text.Split

/-!
Settings as files and environment variables give them: named values in nested tables.  Later sources
are put over earlier ones, table by table.  A value is taken for the type that is wanted as far as
it can be.
-/

namespace SchemaRegistry

inductive Tree
  /-- The place of a value that was never given. -/
  | nil
  | bool (b : Bool)
  | integer (i : Int)
  | real (x : Text.Real)
  | text (s : String)
  | list (items : List Tree)
  | table (members : List (String × Tree))
  deriving Repr

namespace Tree

def empty : Tree := .table []

def members : Tree → List (String × Tree)
  | .table ms => ms
  | _ => []

def child? (t : Tree) (name : String) : Option Tree := t.members.lookup name

def replace (t : Tree) (name : String) (value : Tree) : Tree :=
  if (t.child? name).isSome then
    .table (t.members.map fun m => if m.1 = name then (name, value) else m)
  else .table (t.members ++ [(name, value)])

mutual

/-- Put a value under a name, whose case does not matter: a table member by member, any other value
in place of the old one. -/
def put (name : String) : (value root : Tree) → Tree
  | .table ms, root =>
    let name := Text.lower name
    root.replace name (putAll ms ((root.child? name).getD empty))
  | v, root => root.replace (Text.lower name) v

def putAll : List (String × Tree) → Tree → Tree
  | [], root => root
  | (name, v) :: rest, root => putAll rest (put name v root)

end

def elements : Tree → List Tree
  | .list ts => ts
  | _ => []

/-- The place in a list that an index is for; it counts from the end when it is negative. -/
def place? (length : Nat) (i : Int) : Option Nat :=
  if 0 ≤ i then some i.toNat
  else if i.natAbs ≤ length then some (length - i.natAbs)
  else none

/-- A list with one element changed, and places added up to it. -/
def changeAt (i : Int) (change : Tree → Tree) (t : Tree) : Tree :=
  let ts := t.elements
  match place? ts.length i with
  | none => .list ts
  | some k => .list ((ts ++ List.replicate (k + 1 - ts.length) Tree.nil).modify k change)

inductive Step
  | member (name : String)
  | element (index : Int)
  deriving DecidableEq, Repr

/-- Put a value where some steps lead.  What is on the way becomes a table or a list as needed. -/
def putAt : List Step → (value root : Tree) → Tree
  | [], v, _ => v
  | [.member name], v, root => put name v root
  | .member name :: steps, v, root =>
    root.replace name (putAt steps v ((root.child? name).getD .nil))
  | .element i :: steps, v, root => changeAt i (putAt steps v) root

/-! Paths: a name, and behind it names after dots and indices in brackets. -/

def isNameChar (c : Char) : Bool := c.isAlphanum || c = '_' || c = '-' || c = ' '

def index? (cs : List Char) : Option Int := do
  let isSpace (c : Char) : Bool := c = ' ' || c = '\t'
  let cs := ((cs.dropWhile isSpace).reverse.dropWhile isSpace).reverse
  let i : Int ← match cs with
    | '-' :: ds => (Text.digits? ds).map fun n => -(n : Int)
    | ds => (Text.digits? ds).map Int.ofNat
  if -0x8000000000000000 ≤ i && i < 0x8000000000000000 then some i else none

def name? (cs : List Char) : Option (Step × List Char) :=
  let name := cs.takeWhile isNameChar
  if name.isEmpty then none
  else some (.member (Text.lower (String.ofList name)), cs.drop name.length)

def steps? : (fuel : Nat) → List Char → Option (List Step)
  | _, [] => some []
  | 0, _ => none
  | fuel + 1, c :: cs =>
    if c = '.' then do
      let (step, cs) ← name? cs
      return step :: (← steps? fuel cs)
    else if c = '[' then do
      let inside := cs.takeWhile (· ≠ ']')
      let i ← index? inside
      let rest ← (cs.drop inside.length).tail?
      return .element i :: (← steps? fuel rest)
    else none

/-- The steps of a path.  A text that is no path is one name. -/
def path (s : String) : List Step :=
  let steps := do
    let (first, cs) ← name? s.toList
    return first :: (← steps? cs.length cs)
  steps.getD [.member (Text.lower s)]

def isTrueWord (s : String) : Bool := s = "true" || s = "on" || s = "yes"

def isFalseWord (s : String) : Bool := s = "false" || s = "off" || s = "no"

def bool? : Tree → Option Bool
  | .bool b => some b
  | .integer i => some (i ≠ 0)
  | .real (.finite x) => some (!x.isZero)
  | .real _ => some true
  | .text s =>
    let s := Text.lower s
    if isTrueWord s || s = "1" then some true
    else if isFalseWord s || s = "0" then some false
    else none
  | _ => none

def greatest : Nat := 0xffffffffffffffff

def natural? : Tree → Option Nat
  | .bool b => some b.toNat
  | .integer i => if 0 ≤ i then some i.toNat else none
  | .real (.finite x) => some (min x.round.toNat greatest)
  | .real (.infinite negative) => some (if negative then 0 else greatest)
  | .real .notANumber => some 0
  | .text s =>
    let word := Text.lower s
    if isTrueWord word then some 1
    else if isFalseWord word then some 0
    else (Text.natural? s).filter (· ≤ greatest)
  | _ => none

def text? : Tree → Option String
  | .bool b => some (toString b)
  | .integer i => some (toString i)
  | .real (.finite x) => some x.plainText
  | .real (.infinite negative) => some (if negative then "-inf" else "inf")
  | .real .notANumber => some "NaN"
  | .text s => some s
  | _ => none

def items? : Tree → Option (List Tree)
  | .list items => some items
  | _ => none

def variant? : Tree → Option String
  | .text s => some s
  | .table [(name, _)] => some name
  | _ => none

end Tree

end SchemaRegistry
