import SchemaRegistry.Json.Reader

/-!
Reading any JSON value.  Arrays and objects are loops over a reader for what they hold; nesting is
limited, so the depth is the measure of the recursion.
-/

namespace SchemaRegistry.Json

def readElements {α : Type} (item : Reader α) : (fuel : Nat) → (first : Bool) → Reader (List α)
  | 0, _, s => failHere .expectedValue s
  | fuel + 1, first, s => do
    match skipBlank s with
    | [] => failNext .eofList []
    | b :: rest =>
      if b = 93 then return ([], rest)
      else if first then
        let (x, s) ← item (b :: rest)
        let (xs, s) ← readElements item fuel false s
        return (x :: xs, s)
      else if b = 44 then
        match skipBlank rest with
        | [] => failNext .eofValue []
        | c :: rest =>
          if c = 93 then failNext .trailingComma (c :: rest)
          else
            let (x, s) ← item (c :: rest)
            let (xs, s) ← readElements item fuel false s
            return (x :: xs, s)
      else failNext .expectedListCommaOrEnd (b :: rest)

inductive Next
  | close (rest : Bytes)
  | name (rest : Bytes)
  deriving Repr

def nextMember (first : Bool) (s : Bytes) : Except Failure Next :=
  match skipBlank s with
  | [] => failNext .eofObject []
  | b :: rest =>
    if b = 125 then .ok (.close rest)
    else if first then
      if b = 34 then .ok (.name rest) else failNext .keyNotString (b :: rest)
    else if b = 44 then
      match skipBlank rest with
      | [] => failNext .eofValue []
      | c :: rest =>
        if c = 34 then .ok (.name rest)
        else if c = 125 then failNext .trailingComma (c :: rest)
        else failNext .keyNotString (c :: rest)
    else failNext .expectedObjectCommaOrEnd (b :: rest)

def readMembers {α : Type} (value : Reader α) :
    (fuel : Nat) → (first : Bool) → Reader (List (String × α))
  | 0, _, s => failHere .expectedValue s
  | fuel + 1, first, s => do
    match ← nextMember first s with
    | .close rest => return ([], rest)
    | .name s =>
      let (k, s) ← readStringBody s
      let s ← readColon s
      let (v, s) ← value s
      let (rest, s) ← readMembers value fuel false s
      return ((k, v) :: rest, s)

/-- A value, when `depth` more arrays or objects may be opened.  The fuel bounds the members of
each of them; the length of the document is always enough. -/
def readValue (fuel : Nat) : (depth : Nat) → Reader Value
  | depth, s =>
    match skipBlank s with
    | [] => failNext .eofValue []
    | b :: rest =>
      if b = 110 then do
        let s ← readWord [117, 108, 108] rest
        return (.null, s)
      else if b = 116 then do
        let s ← readWord [114, 117, 101] rest
        return (.bool true, s)
      else if b = 102 then do
        let s ← readWord [97, 108, 115, 101] rest
        return (.bool false, s)
      else if b = 45 then do
        let (n, s) ← readNumber true rest
        return (.number n, s)
      else if Bytes.isDigit b then do
        let (n, s) ← readNumber false (b :: rest)
        return (.number n, s)
      else if b = 34 then do
        let (text, s) ← readStringBody rest
        return (.string text, s)
      else if b = 91 then
        match depth with
        | 0 => failNext .recursionLimit (b :: rest)
        | depth + 1 => do
          let (xs, s) ← readElements (readValue fuel depth) fuel true rest
          return (.array xs, s)
      else if b = 123 then
        match depth with
        | 0 => failNext .recursionLimit (b :: rest)
        | depth + 1 => do
          let (ms, s) ← readMembers (readValue fuel depth) fuel true rest
          return (Value.ofMembers ms, s)
      else failNext .expectedValue (b :: rest)

def depthLimit : Nat := 127

def parse (input : Bytes) : Except Error Value :=
  readAll (readValue (input.length + 1) depthLimit) input

end SchemaRegistry.Json
