import SchemaRegistry.Host.Event
import SchemaRegistry.Text.Numeral
import SchemaRegistry.Text.Pattern
import SchemaRegistry.Text.Split

/-!
Which reports are shown.  A filter is a list of directives: a level for everything, or a level for
the parts of the program whose names start with a text.  The longest such text decides.
-/

namespace SchemaRegistry

inductive Concern
  | reports
  | reportsWith (field : String)
  | spans
  deriving DecidableEq, Repr

structure Directive where
  target : Option String
  concern : Concern
  /-- The least grave rank that is shown; zero shows nothing. -/
  rank : Nat
  deriving DecidableEq, Repr

inductive DirectiveError
  | malformed
  | unknownLevel
  | badField
  deriving DecidableEq, Repr

def DirectiveError.message : DirectiveError → String
  | .malformed => "invalid filter directive"
  | .unknownLevel => "error parsing level filter: expected one of \"off\", \"error\", \"warn\", " ++
    "\"info\", \"debug\", \"trace\", or a number 0-5"
  | .badField => "invalid field filter: error building NFA"

abbrev Filter := List Directive

namespace Filter

def deepest : Nat := 5

/-- A level by rank, or by name in any case. -/
def rank? (s : String) : Option Nat :=
  match (Text.natural? s).filter (· ≤ deepest) with
  | some n => some n
  | none =>
    match String.ofList (s.toList.map Char.toLower) with
    | "off" => some 0
    | "error" => some 1
    | "warn" => some 2
    | "info" => some 3
    | "debug" => some 4
    | "trace" => some 5
    | _ => none

def level (cs : List Char) : Except DirectiveError Nat :=
  if cs.isEmpty then .ok deepest
  else match rank? (String.ofList cs) with
    | some rank => .ok rank
    | none => .error .unknownLevel

def mayStart (c : Char) : Bool := ['-', ':', '_'].contains c || Text.isAlphanumeric c

/-- A directive as it is read.  Blanks around it are not looked at, but where the parts of the
directive start is counted without the blanks in front. -/
structure Draft where
  text : List Char
  body : List Char

namespace Draft

def ofText (s : String) : Draft := ⟨s.toList, Text.trimChars s.toList⟩

def part (d : Draft) (behind length : Nat) : List Char :=
  (d.text.drop (d.body.length - behind)).take length

def level (d : Draft) (rest : List Char) : Except DirectiveError Nat :=
  Filter.level (d.text.drop (d.body.length - rest.length))

def levelBehind (d : Draft) : List Char → Except DirectiveError Nat
  | [] => .ok deepest
  | '=' :: rest => d.level rest
  | _ => .error .malformed

def field (cs : List Char) : Except DirectiveError Concern :=
  match Text.pieces '=' cs with
  | _ :: value :: _ =>
    if (Text.real? (String.ofList value)).isSome || Pattern.isPattern value then .ok .spans
    else .error .badField
  | _ => if cs.isEmpty then .error .malformed else .ok (.reportsWith (String.ofList cs))

def span (d : Draft) (cs : List Char) : Except DirectiveError (Concern × List Char) :=
  let name := cs.takeWhile fun c => c ≠ ']' && c ≠ '\x7b'
  match cs.drop name.length with
  | ']' :: rest => .ok (.spans, rest)
  | _ :: rest => do
    let fields := rest.takeWhile (· ≠ '\x7d')
    match rest.drop fields.length with
    | [] => .error .malformed
    | _ :: behind =>
      let concern ← field (d.part rest.length fields.length)
      match behind with
      | ']' :: behind => return (if name.isEmpty then concern else .spans, behind)
      | _ => .error .malformed
  | [] => .error .malformed

end Draft

def directive (s : String) : Except DirectiveError Directive :=
  let d := Draft.ofText s
  let start := d.body.takeWhile fun c => c ≠ '=' && c ≠ '['
  let target := String.ofList (d.text.take start.length)
  match d.body.head?, d.body.drop start.length with
  | none, _ => .error .malformed
  | some c, rest =>
    if c ≠ '[' && !mayStart c then .error .malformed
    else match rest with
      | [] =>
        match rank? s with
        | some rank => .ok ⟨none, .reports, rank⟩
        | none => .ok ⟨some s, .reports, deepest⟩
      | '=' :: rest => do return ⟨some target, .reports, ← d.level rest⟩
      | _ :: rest => do
        let (concern, rest) ← d.span rest
        return ⟨if start.isEmpty then none else some target, concern, ← d.levelBehind rest⟩

def texts (s : String) : List String := (Text.split ',' s).filter (· ≠ "")

def parse? (s : String) : Option Filter := ((texts s).mapM directive).toOption

def ofReadable (s : String) : Filter := (texts s).filterMap fun d => (directive d).toOption

def complaints (s : String) : List String := (texts s).filterMap fun d =>
  match directive d with
  | .ok _ => none
  | .error e => some ("ignoring \x60" ++ d ++ "\x60: " ++ e.message)

def reportField : String := "message"

def concerns (d : Directive) (source : String) : Bool :=
  (d.target.all fun t => t.toList.isPrefixOf source.toList) &&
    match d.concern with
    | .reports => true
    | .reportsWith field => field = reportField
    | .spans => false

/-- Whether a directive decides before another: it has the longer target, or as long a one and a
field. -/
def outranks (d e : Directive) : Bool :=
  let size (d : Directive) : Nat := d.target.elim 0 (·.length + 1)
  size e < size d || (size e = size d && d.concern ≠ .reports && e.concern = .reports)

/-- The rank up to which the reports of a part of the program are shown.  Of directives that decide
as soon as each other the last one does, and without any directive only errors are shown. -/
def rankOf (f : Filter) (source : String) : Nat :=
  if f.isEmpty then 1
  else
    ((f.filter (concerns · source)).foldl (fun (best : Option Directive) d =>
      match best with
      | some b => if outranks b d then some b else some d
      | none => some d) none).elim 0 (·.rank)

def shows (f : Filter) (e : Event) : Bool := e.severity.rank ≤ f.rankOf e.source

end Filter

end SchemaRegistry
