import SchemaRegistry.Json.Error
import SchemaRegistry.Json.Value
import SchemaRegistry.Text.Utf8

/-!
Reading the tokens of JSON from bytes: blanks, words, strings and numbers.  A reader returns what it
read and the bytes behind it.  A failure is placed either behind the bytes read so far or behind
the byte that is at fault and still unread.
-/

namespace SchemaRegistry.Json

abbrev Reader (α : Type) := Bytes → Except Failure (α × Bytes)

def failHere {α : Type} (issue : Issue) (s : Bytes) : Except Failure α := .error ⟨issue, s.length⟩

/-- A failure at the next byte, which is counted as seen. -/
def failNext {α : Type} (issue : Issue) (s : Bytes) : Except Failure α :=
  .error ⟨issue, s.tail.length⟩

def isBlank (b : UInt8) : Bool := b = 32 || b = 10 || b = 9 || b = 13

def skipBlank (s : Bytes) : Bytes := s.dropWhile isBlank

def readWord : (word s : Bytes) → Except Failure Bytes
  | [], s => .ok s
  | _ :: _, [] => failHere .eofValue []
  | c :: cs, b :: s => if b = c then readWord cs s else failHere .expectedIdent s

def hexValue4? (a b c d : UInt8) : Option Nat := do
  let a ← Bytes.hexValue? a
  let b ← Bytes.hexValue? b
  let c ← Bytes.hexValue? c
  let d ← Bytes.hexValue? d
  return ((a * 16 + b) * 16 + c) * 16 + d

def isLeading (n : Nat) : Bool := 0xD800 ≤ n && n ≤ 0xDBFF

def isTrailing (n : Nat) : Bool := 0xDC00 ≤ n && n ≤ 0xDFFF

def escaped? (b : UInt8) : Option UInt8 :=
  if b = 34 || b = 92 || b = 47 then some b
  else if b = 98 then some 8
  else if b = 102 then some 12
  else if b = 110 then some 10
  else if b = 114 then some 13
  else if b = 116 then some 9
  else none

def pushCodePoint (n : Nat) (acc : Bytes) : Bytes :=
  (String.utf8EncodeChar (Char.ofNat n)).reverse ++ acc

def stringBytes (acc : Bytes) : Bytes → Except Failure (Bytes × Bytes)
  | [] => failHere .eofString []
  | b :: s =>
    if b = 34 then .ok (acc.reverse, s)
    else if b = 92 then
      match s with
      | [] => failHere .eofString []
      | e :: s =>
        if e = 117 then
          match s with
          | h₁ :: h₂ :: h₃ :: h₄ :: s =>
            match hexValue4? h₁ h₂ h₃ h₄ with
            | none => failHere .invalidEscape s
            | some n =>
              if isTrailing n then failHere .loneSurrogate s
              else if isLeading n then
                match s with
                | [] => failHere .eofString []
                | b₁ :: s =>
                  if b₁ = 92 then
                    match s with
                    | [] => failHere .eofString []
                    | b₂ :: s =>
                      if b₂ = 117 then
                        match s with
                        | l₁ :: l₂ :: l₃ :: l₄ :: s =>
                          match hexValue4? l₁ l₂ l₃ l₄ with
                          | none => failHere .invalidEscape s
                          | some m =>
                            if isTrailing m then
                              stringBytes (pushCodePoint
                                (0x10000 + (n - 0xD800) * 0x400 + (m - 0xDC00)) acc) s
                            else failHere .loneSurrogate s
                        | _ => failHere .eofString []
                      else failHere .unexpectedEndOfHexEscape s
                  else failHere .unexpectedEndOfHexEscape s
              else stringBytes (pushCodePoint n acc) s
          | _ => failHere .eofString []
        else
          match escaped? e with
          | some c => stringBytes (c :: acc) s
          | none => failHere .invalidEscape s
    else if b < 32 then failHere .controlCharacter s
    else stringBytes (b :: acc) s

/-- A string behind its opening quote.  Bytes that are not UTF-8 are reported before the closing
quote, as far back as the decoded text runs from the first fault. -/
def readStringBody : Reader String := fun s => do
  let (bs, s) ← stringBytes [] s
  match Utf8.decode bs with
  | .ok text => .ok (text, s)
  | .error fault => .error ⟨.invalidCodePoint, s.length + (bs.length - fault.validLength)⟩

/-- Digits taken into a significand while it fits 64 bits: the significand, how many were taken,
and how many were left out. -/
def takeDigits (significand taken : Nat) : Bytes → Nat × Nat × Nat
  | [] => (significand, taken, 0)
  | d :: ds =>
    let next := significand * 10 + (d.toNat - 48)
    if next < 0x10000000000000000 then takeDigits next (taken + 1) ds
    else (significand, taken, ds.length + 1)

/-- `significand * 10 ^ exponent`: one rounding for the significand and one for each scaling, the
power being at most `10 ^ 308` at a time. -/
def scaleDown (x : Binary64) (fuel exponent : Nat) : Option Binary64 :=
  match fuel with
  | 0 => some .zero
  | fuel + 1 =>
    if exponent ≤ 308 then do x.div (← Binary64.ofQuotient (tenTo exponent) 1)
    else if x.isZero then some x
    else do
      let y ← x.div (← Binary64.ofQuotient (tenTo 308) 1)
      scaleDown y fuel (exponent - 308)

def scale (significand : Nat) (exponent : Int) : Option Binary64 := do
  let x ← Binary64.ofQuotient significand 1
  if exponent < 0 then scaleDown x 5 exponent.natAbs
  else if exponent ≤ 308 then x.mul (← Binary64.ofQuotient (tenTo exponent.toNat) 1)
  else if x.isZero then some x
  else none

def finishReal (negative : Bool) (significand : Nat) (exponent : Int) : Reader Number := fun s =>
  match scale significand exponent with
  | some x => .ok (.real (x.withSign negative), s)
  | none => failHere .numberOutOfRange s

/-- The digits of an exponent as far as they fit 32 bits with sign: the value, and the rest if it
stopped behind a digit that does not. -/
def exponentDigits (value : Nat) : Bytes → Except Bytes (Nat × Bytes)
  | [] => .ok (value, [])
  | d :: s =>
    if Bytes.isDigit d then
      let next := value * 10 + (d.toNat - 48)
      if next < 0x80000000 then exponentDigits next s else .error s
    else .ok (value, d :: s)

def readExponent (negative : Bool) (significand : Nat) (start : Int) : Reader Number := fun s =>
  let (down, s) :=
    match s with
    | b :: rest => if b = 43 then (false, rest) else if b = 45 then (true, rest) else (false, s)
    | [] => (false, s)
  match s with
  | [] => failHere .eofValue []
  | d :: s =>
    if Bytes.isDigit d then
      match exponentDigits (d.toNat - 48) s with
      | .ok (e, s) => finishReal negative significand (if down then start - e else start + e) s
      | .error s =>
        if significand ≠ 0 && !down then failHere .numberOutOfRange s
        else .ok (.real (Binary64.zero.withSign negative), s.dropWhile Bytes.isDigit)
    else failHere .invalidNumber s

def isExponentMark (b : UInt8) : Bool := b = 101 || b = 69

def readFraction (negative : Bool) (significand : Nat) (start : Int) : Reader Number := fun s =>
  let digits := s.takeWhile Bytes.isDigit
  let s := s.dropWhile Bytes.isDigit
  if digits.isEmpty then failNext (if s.isEmpty then .eofValue else .invalidNumber) s
  else
    let (significand, taken, _) := takeDigits significand 0 digits
    match s with
    | b :: rest =>
      if isExponentMark b then readExponent negative significand (start - taken) rest
      else finishReal negative significand (start - taken) s
    | [] => finishReal negative significand (start - taken) s

/-- A whole number if it fits, by sign, 64 bits; minus zero and any larger one are real. -/
def wholeNumber (negative : Bool) (n : Nat) : Reader Number := fun s =>
  if !negative then .ok (.whole n, s)
  else if 0 < n ∧ n ≤ 0x8000000000000000 then .ok (.whole (-n), s)
  else finishReal true n 0 s

def readNumber (negative : Bool) : Reader Number := fun s =>
  match s with
  | [] => failHere .eofValue []
  | d :: rest =>
    if !Bytes.isDigit d then failHere .invalidNumber rest
    else if d = 48 && (rest.head?.any Bytes.isDigit) then failNext .invalidNumber rest
    else
      let (significand, _, dropped) := takeDigits 0 0 (s.takeWhile Bytes.isDigit)
      let s := s.dropWhile Bytes.isDigit
      let finish := if dropped = 0 then wholeNumber negative significand s
        else finishReal negative significand dropped s
      match s with
      | b :: rest =>
        if b = 46 then readFraction negative significand dropped rest
        else if isExponentMark b then readExponent negative significand dropped rest
        else finish
      | [] => finish

def readColon (s : Bytes) : Except Failure Bytes :=
  match skipBlank s with
  | [] => failNext .eofObject []
  | b :: rest => if b = 58 then .ok rest else failNext .expectedColon (b :: rest)

def readEnd (s : Bytes) : Except Failure Unit :=
  match skipBlank s with
  | [] => .ok ()
  | rest => failNext .trailingCharacters rest

def readAll {α : Type} (reader : Reader α) (input : Bytes) : Except Error α :=
  let result := do
    let (a, s) ← reader input
    readEnd s
    return a
  match result with
  | .ok a => .ok a
  | .error f => .error (f.locate input)

end SchemaRegistry.Json
