import SchemaRegistry.Text.Bytes
import SchemaRegistry.Settings.Tree

/-!
Scalars of TOML: strings in four forms, numbers, and dates, which are kept as text.  A reader takes
a scalar off the front of the document and leaves the rest.
-/

namespace SchemaRegistry.Toml

abbrev Reader (α : Type) := List Char → Option (α × List Char)

def isControl (c : Char) : Bool := (c.toNat < 32 && c ≠ '\t') || c.toNat = 127

def isBare (c : Char) : Bool := c.isAlphanum || c = '_' || c = '-'

def startsWith (start : String) (cs : List Char) : Option (List Char) :=
  if start.toList.isPrefixOf cs then some (cs.drop start.length) else none

def hexValue? (digits : List Char) : Option Nat :=
  digits.foldlM (fun n c => do
    if 127 < c.toNat then none else return n * 16 + (← Bytes.hexValue? (UInt8.ofNat c.toNat))) 0

def readCodePoint (width : Nat) : Reader Char := fun cs =>
  let digits := cs.take width
  if digits.length < width then none
  else do
    let n ← hexValue? digits
    if n < 0xd800 || (0xdfff < n && n ≤ 0x10ffff) then some (Char.ofNat n, cs.drop width) else none

def readEscape : Reader Char
  | 'b' :: cs => some ('\x08', cs)
  | 't' :: cs => some ('\t', cs)
  | 'n' :: cs => some ('\n', cs)
  | 'f' :: cs => some ('\x0c', cs)
  | 'r' :: cs => some ('\r', cs)
  | '"' :: cs => some ('"', cs)
  | '\\' :: cs => some ('\\', cs)
  | 'u' :: cs => readCodePoint 4 cs
  | 'U' :: cs => readCodePoint 8 cs
  | _ => none

def readBasic : (fuel : Nat) → List Char → Reader String
  | 0, _, _ => none
  | _ + 1, _, [] => none
  | fuel + 1, taken, c :: cs =>
    if c = '"' then some (String.ofList taken.reverse, cs)
    else if c = '\\' then do
      let (c, cs) ← readEscape cs
      readBasic fuel (c :: taken) cs
    else if isControl c then none
    else readBasic fuel (c :: taken) cs

/-- Blanks and line ends that a backslash at the end of a line removes. -/
def skipFolded (cs : List Char) : Option (List Char) :=
  match cs.dropWhile fun c => c = ' ' || c = '\t' with
  | '\n' :: rest => some (rest.dropWhile fun c => c = ' ' || c = '\t' || c = '\n')
  | _ => none

/-- How many times a text starts with a character, up to five. -/
def run (c : Char) (cs : List Char) : Nat := ((cs.take 5).takeWhile (· = c)).length

/-- A string over several lines, up to three quotes; up to two more before them belong to it. -/
def readLines (quote : Char) (escapes : Bool) : (fuel : Nat) → List Char → Reader String
  | 0, _, _ => none
  | _ + 1, _, [] => none
  | fuel + 1, taken, c :: cs =>
    let n := run quote (c :: cs)
    if 3 ≤ n then
      some (String.ofList (taken.reverse ++ List.replicate (n - 3) quote), (c :: cs).drop n)
    else if escapes && c = '\\' then
      match skipFolded cs with
      | some cs => readLines quote escapes fuel taken cs
      | none => do
        let (c, cs) ← readEscape cs
        readLines quote escapes fuel (c :: taken) cs
    else if isControl c && c ≠ '\n' then none
    else readLines quote escapes fuel (c :: taken) cs

def withoutFirstBreak : List Char → List Char
  | '\n' :: cs => cs
  | cs => cs

def readLiteral (cs : List Char) : Option (String × List Char) :=
  let text := cs.takeWhile fun c => c ≠ '\'' && !isControl c
  match cs.drop text.length with
  | '\'' :: rest => some (String.ofList text, rest)
  | _ => none

def readString (cs : List Char) : Option (String × List Char) :=
  let fuel := cs.length + 1
  match startsWith "\"\"\"" cs with
  | some rest => readLines '"' true fuel [] (withoutFirstBreak rest)
  | none =>
    match startsWith "'''" cs with
    | some rest => readLines '\'' false fuel [] (withoutFirstBreak rest)
    | none =>
      match cs with
      | '"' :: rest => readBasic fuel [] rest
      | '\'' :: rest => readLiteral rest
      | _ => none

/-- Digits, each underscore of which stands between two of them. -/
def separated (isDigit : Char → Bool) (cs : List Char) : Option (List Char) :=
  let groups := Text.pieces '_' cs
  if groups.all fun g => !g.isEmpty && g.all isDigit then some groups.flatten else none

def inRange (n : Int) : Option Tree :=
  if -0x8000000000000000 ≤ n && n < 0x8000000000000000 then some (.integer n) else none

def based (base : Nat) (digits : List Char) : Option Tree := do
  let isDigit (c : Char) : Bool := (hexValue? [c]).any (· < base)
  let ds ← separated isDigit digits
  inRange (ds.foldl (fun n c => n * base + (hexValue? [c]).getD 0) 0)

def wholePart (cs : List Char) : Option (List Char) := do
  let ds ← separated Char.isDigit cs
  if 1 < ds.length && ds.head? = some '0' then none else some ds

def fractional (negative : Bool) (cs : List Char) : Option Tree := do
  let isMark (c : Char) : Bool := c = 'e' || c = 'E'
  let mantissa := cs.takeWhile (!isMark ·)
  let exponent := (cs.dropWhile (!isMark ·)).tail?
  let whole ← wholePart (mantissa.takeWhile (· ≠ '.'))
  let fraction ← match (mantissa.dropWhile (· ≠ '.')).tail? with
    | some f => separated Char.isDigit f
    | none => some []
  let e ← match exponent with
    | some e =>
      let (down, ds) := Text.splitSign e
      (separated Char.isDigit ds).map fun ds =>
        'e' :: (if down then ['-'] else []) ++ ds
    | none => some []
  let point := if fraction.isEmpty then [] else '.' :: fraction
  let x ← Text.decimal? negative (whole ++ point ++ e)
  if x = .infinite false then none else some (.real x)

def number? (text : List Char) : Option Tree :=
  match text with
  | '0' :: 'x' :: ds => based 16 ds
  | '0' :: 'o' :: ds => based 8 ds
  | '0' :: 'b' :: ds => based 2 ds
  | _ =>
    let (negative, cs) := Text.splitSign text
    if cs = ['i', 'n', 'f'] then some (.real (.infinite negative))
    else if cs = ['n', 'a', 'n'] then some (.real .notANumber)
    else match wholePart cs with
      | some ds => do
        let n ← Text.digits? ds
        inRange (if negative then -(n : Int) else n)
      | none => fractional negative cs

def field (width low high : Nat) : Reader Nat := fun cs => do
  let ds := cs.take width
  if ds.length < width then none
  else
    let n ← Text.digits? ds
    if low ≤ n && n ≤ high then some (n, cs.drop width) else none

def padded (width n : Nat) : String :=
  let ds := Nat.toDigits 10 n
  String.ofList (List.replicate (width - ds.length) '0' ++ ds)

def daysIn (year month : Nat) : Nat :=
  let leap := year % 4 = 0 && (year % 100 ≠ 0 || year % 400 = 0)
  if month = 2 then (if leap then 29 else 28)
  else if [4, 6, 9, 11].contains month then 30 else 31

def readDate : Reader String := fun cs => do
  let (year, cs) ← field 4 0 9999 cs
  let cs ← startsWith "-" cs
  let (month, cs) ← field 2 1 12 cs
  let cs ← startsWith "-" cs
  let (day, cs) ← field 2 1 (daysIn year month) cs
  return (s!"{padded 4 year}-{padded 2 month}-{padded 2 day}", cs)

/-- A fraction of a second, of which nine digits count and zeros at the end do not. -/
def readFraction : Reader String := fun cs =>
  match cs with
  | '.' :: rest =>
    let ds := rest.takeWhile Char.isDigit
    if ds.isEmpty then none
    else
      let kept := ((ds.take 9).reverse.dropWhile (· = '0')).reverse
      let text := if kept.isEmpty then [] else '.' :: kept
      some (String.ofList text, rest.drop ds.length)
  | _ => some ("", cs)

def readTime : Reader String := fun cs => do
  let (hour, cs) ← field 2 0 23 cs
  let cs ← startsWith ":" cs
  let (minute, cs) ← field 2 0 59 cs
  let cs ← startsWith ":" cs
  let (second, cs) ← field 2 0 60 cs
  let (fraction, cs) ← readFraction cs
  return (s!"{padded 2 hour}:{padded 2 minute}:{padded 2 second}" ++ fraction, cs)

/-- A zone by its distance; the one without a distance has a plus. -/
def readZone : Reader String := fun cs =>
  match cs with
  | [] => some ("", [])
  | c :: rest =>
    if c = 'Z' || c = 'z' then some ("Z", rest)
    else if c = '+' || c = '-' then do
      let (hour, cs) ← field 2 0 23 rest
      let cs ← startsWith ":" cs
      let (minute, cs) ← field 2 0 59 cs
      let sign := if c = '-' && 0 < hour + minute then "-" else "+"
      return (sign ++ s!"{padded 2 hour}:{padded 2 minute}", cs)
    else some ("", c :: rest)

def moment? (cs : List Char) : Option Tree :=
  match readDate cs with
  | some (date, []) => some (.text date)
  | some (date, c :: rest) => do
    if c ≠ 'T' && c ≠ 't' && c ≠ ' ' then none
    else
      let (time, rest) ← readTime rest
      let (zone, rest) ← readZone rest
      if rest.isEmpty then some (.text (date ++ "T" ++ time ++ zone)) else none
  | none => do
    let (time, rest) ← readTime cs
    if rest.isEmpty then some (.text time) else none

/-- The characters of a word that is no string: one blank may stand between a date and a time. -/
def word (cs : List Char) : List Char :=
  let isPart (c : Char) : Bool := isBare c || c = '+' || c = '.' || c = ':'
  let first := cs.takeWhile isPart
  match cs.drop first.length with
  | ' ' :: c :: rest =>
    if (readDate first).any (·.2.isEmpty) && c.isDigit then
      first ++ ' ' :: (c :: rest).takeWhile isPart
    else first
  | _ => first

def readWord (cs : List Char) : Option (Tree × List Char) :=
  let w := word cs
  let rest := cs.drop w.length
  if w = "true".toList then some (.bool true, rest)
  else if w = "false".toList then some (.bool false, rest)
  else match moment? w with
    | some t => some (t, rest)
    | none => (number? w).map fun t => (t, rest)

end SchemaRegistry.Toml
