import SchemaRegistry.Toml.Item
import SchemaRegistry.Toml.Scalar

namespace SchemaRegistry.Toml

def skipBlank (cs : List Char) : List Char := cs.dropWhile fun c => c = ' ' || c = '\t'

def skipComment (cs : List Char) : Option (List Char) :=
  match cs with
  | '#' :: rest =>
    let text := rest.takeWhile (· ≠ '\n')
    if text.any isControl then none else some (rest.drop text.length)
  | _ => some cs

def readLineEnd (cs : List Char) : Option (List Char) := do
  match ← skipComment (skipBlank cs) with
  | [] => some []
  | '\n' :: rest => some rest
  | _ => none

def skipSpace : (fuel : Nat) → List Char → Option (List Char)
  | 0, cs => some cs
  | fuel + 1, cs => do
    match ← skipComment (skipBlank cs) with
    | '\n' :: rest => skipSpace fuel rest
    | rest => some rest

def readPart (cs : List Char) : Option (String × List Char) :=
  match cs with
  | '"' :: rest => readBasic (cs.length + 1) [] rest
  | '\'' :: rest => readLiteral rest
  | _ =>
    let bare := cs.takeWhile isBare
    if bare.isEmpty then none else some (String.ofList bare, cs.drop bare.length)

def readParts : (fuel : Nat) → Reader (List String)
  | 0, _ => none
  | fuel + 1, cs => do
    let (part, cs) ← readPart (skipBlank cs)
    match skipBlank cs with
    | '.' :: rest => do
      let (parts, cs) ← readParts fuel rest
      return (part :: parts, cs)
    | rest => return ([part], rest)

def mostParts : Nat := 79

def readName (cs : List Char) : Option ((List String × String) × List Char) := do
  let (parts, cs) ← readParts (cs.length + 1) cs
  if mostParts < parts.length then none
  else return ((parts.dropLast, parts.getLast?.getD ""), cs)

def deepest : Nat := 79

def readItems (value : Reader Tree) : (fuel : Nat) → Reader (List Tree)
  | 0, _ => none
  | fuel + 1, cs => do
    match ← skipSpace cs.length cs with
    | ']' :: rest => some ([], rest)
    | cs => do
      let (v, cs) ← value cs
      match ← skipSpace cs.length cs with
      | ']' :: rest => some ([v], rest)
      | ',' :: rest => do
        let (vs, cs) ← readItems value fuel rest
        return (v :: vs, cs)
      | _ => none

/-- The members of an inline table behind its brace, which stand on one line. -/
def readMembers (value : Reader Tree) : (fuel : Nat) → Members → Reader Members
  | 0, _, _ => none
  | fuel + 1, ms, cs => do
    let ((path, name), cs) ← readName cs
    let cs ← startsWith "=" (skipBlank cs)
    let (v, cs) ← value (skipBlank cs)
    let ms ← Item.insert [] path name v ms
    match skipBlank cs with
    | ',' :: rest => readMembers value fuel ms rest
    | rest => do return (ms, ← startsWith "\x7d" rest)

def readValue : (depth : Nat) → Reader Tree
  | depth, cs =>
    match cs with
    | [] => none
    | c :: rest =>
      if c = '"' || c = '\'' then (readString cs).map fun (s, cs) => (.text s, cs)
      else if c = '[' then
        match depth with
        | 0 => none
        | depth + 1 =>
          (readItems (readValue depth) (cs.length + 1) rest).map fun (vs, cs) => (.list vs, cs)
      else if c = '\x7b' then
        match depth with
        | 0 => none
        | depth + 1 =>
          match skipBlank rest with
          | '\x7d' :: rest => some (.table [], rest)
          | rest => (readMembers (readValue depth) (cs.length + 1) [] rest).map fun (ms, cs) =>
            (.table (Item.membersToTree ms), cs)
      else readWord cs

/-- What has been read: everything, and the header whose table is open. -/
structure State where
  root : Members
  header : List String

def readHeader (cs : List Char) (s : State) : Option (State × List Char) :=
  match startsWith "[[" cs with
  | some rest => do
    let ((path, name), cs) ← readName rest
    let cs ← startsWith "]]" (skipBlank cs)
    return (⟨← Item.beginRow path name s.root, path ++ [name]⟩, cs)
  | none => do
    let cs ← startsWith "[" cs
    let ((path, name), cs) ← readName cs
    let cs ← startsWith "]" (skipBlank cs)
    return (⟨← Item.beginTable path name s.root, path ++ [name]⟩, cs)

def readAssignment (cs : List Char) (s : State) : Option (State × List Char) := do
  let ((path, name), cs) ← readName cs
  let cs ← startsWith "=" (skipBlank cs)
  let (v, cs) ← readValue deepest (skipBlank cs)
  return ({ s with root := ← Item.insert s.header path name v s.root }, cs)

def readAll : (fuel : Nat) → List Char → State → Option State
  | 0, _, s => some s
  | fuel + 1, cs, s =>
    match skipBlank cs with
    | [] => some s
    | c :: rest => do
      if c = '\n' || c = '#' then readAll fuel (← readLineEnd (c :: rest)) s
      else
        let (s, cs) ← if c = '[' then readHeader (c :: rest) s else readAssignment (c :: rest) s
        readAll fuel (← readLineEnd cs) s

def oneBreak : List Char → List Char
  | '\r' :: '\n' :: cs => '\n' :: oneBreak cs
  | c :: cs => c :: oneBreak cs
  | [] => []

def parse? (text : String) : Option (List (String × Tree)) := do
  let cs := oneBreak text.toList
  let cs := (startsWith "\ufeff" cs).getD cs
  let s ← readAll (cs.length + 1) cs ⟨[], []⟩
  return Item.membersToTree s.root

end SchemaRegistry.Toml
