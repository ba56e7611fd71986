import SchemaRegistry.Json.Document

/-!
Stepping over a value that nobody asked for.  Its brackets must match and its tokens be well formed,
but numbers have no size, strings need not be UTF-8 and nesting has no limit.
-/

namespace SchemaRegistry.Json

def skipString : Bytes → Except Failure Bytes
  | [] => failHere .eofString []
  | b :: s =>
    if b = 34 then .ok s
    else if b = 92 then
      match s with
      | [] => failHere .eofString []
      | e :: s =>
        if e = 117 then
          match s with
          | h₁ :: h₂ :: h₃ :: h₄ :: s =>
            if (hexValue4? h₁ h₂ h₃ h₄).isSome then skipString s else failHere .invalidEscape s
          | _ => failHere .eofString []
        else if (escaped? e).isSome then skipString s
        else failHere .invalidEscape s
    else if b < 32 then failHere .controlCharacter (b :: s)
    else skipString s

def skipExponent (s : Bytes) : Except Failure Bytes :=
  let s := match s with
    | b :: rest => if b = 43 || b = 45 then rest else s
    | [] => s
  match s with
  | [] => failHere .invalidNumber []
  | d :: s =>
    if Bytes.isDigit d then .ok (s.dropWhile Bytes.isDigit) else failHere .invalidNumber s

def skipFraction (s : Bytes) : Except Failure Bytes :=
  let rest := s.dropWhile Bytes.isDigit
  if rest.length = s.length then failNext .invalidNumber rest
  else match rest with
    | b :: s => if isExponentMark b then skipExponent s else .ok rest
    | [] => .ok rest

def skipNumber (s : Bytes) : Except Failure Bytes :=
  match s with
  | [] => failHere .invalidNumber []
  | d :: rest =>
    if !Bytes.isDigit d then failHere .invalidNumber rest
    else if d = 48 && rest.head?.any Bytes.isDigit then failNext .invalidNumber rest
    else
      let s := if d = 48 then rest else rest.dropWhile Bytes.isDigit
      match s with
      | b :: rest =>
        if b = 46 then skipFraction rest else if isExponentMark b then skipExponent rest else .ok s
      | [] => .ok s

inductive Open
  | array
  | object
  deriving DecidableEq, Repr

inductive Stage
  | value
  | first
  | after
  deriving DecidableEq, Repr

/-- Step over what is left of a value.  `opened` are the arrays and objects around the next byte,
innermost first. -/
def skipFrom : (fuel : Nat) → Stage → (opened : List Open) → Bytes → Except Failure Bytes
  | 0, _, _, s => failHere .expectedValue s
  | _ + 1, .after, [], s => .ok s
  | _ + 1, .first, [], s => .ok s
  | fuel + 1, .value, opened, s => do
    match skipBlank s with
    | [] => failNext .eofValue []
    | b :: rest =>
      if b = 110 then skipFrom fuel .after opened (← readWord [117, 108, 108] rest)
      else if b = 116 then skipFrom fuel .after opened (← readWord [114, 117, 101] rest)
      else if b = 102 then skipFrom fuel .after opened (← readWord [97, 108, 115, 101] rest)
      else if b = 45 then skipFrom fuel .after opened (← skipNumber rest)
      else if Bytes.isDigit b then skipFrom fuel .after opened (← skipNumber (b :: rest))
      else if b = 34 then skipFrom fuel .after opened (← skipString rest)
      else if b = 91 then skipFrom fuel .first (.array :: opened) rest
      else if b = 123 then skipFrom fuel .first (.object :: opened) rest
      else failNext .expectedValue (b :: rest)
  | fuel + 1, stage, inner :: opened, s => do
    match skipBlank s with
    | [] => failNext (if inner = .array then .eofList else .eofObject) []
    | b :: rest =>
      if b = (if inner = .array then 93 else 125) then skipFrom fuel .after opened rest
      else if stage = .after && b ≠ 44 then
        failNext (if inner = .array then .expectedListCommaOrEnd else .expectedObjectCommaOrEnd)
          (b :: rest)
      else
        let s := if stage = .after then rest else b :: rest
        if inner = .array then skipFrom fuel .value (inner :: opened) s
        else
          match skipBlank s with
          | [] => failNext .eofObject []
          | q :: rest =>
            if q = 34 then
              let s ← skipString rest
              skipFrom fuel .value (inner :: opened) (← readColon s)
            else failNext .keyNotString (q :: rest)

def skipValue (s : Bytes) : Except Failure Bytes := skipFrom (2 * s.length + 2) .value [] s

end SchemaRegistry.Json
