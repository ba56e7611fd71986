import SchemaRegistry.Domain.MappingTable
import SchemaRegistry.Text.Composition

/-!
Names of domains in the form in which they are compared.  Capital letters become small ones and
letters of other widths and styles plain ones; some characters are not read at all, and some cannot
stand in a name.
-/

namespace SchemaRegistry.Domain

structure Mapping where
  start : Nat
  count : Nat
  stride : Nat
  advances : Bool
  images : List Nat

namespace Mapping

def stop (m : Mapping) : Nat := m.start + (m.count - 1) * m.stride + 1

def image? (m : Mapping) (n : Nat) : Option (List Nat) :=
  if m.start ≤ n && n < m.stop && (n - m.start) % m.stride = 0 then
    some (if m.advances then m.images.map (· + (n - m.start)) else m.images)
  else none

def ofText (after : Nat) (text : String) : Mapping :=
  let cs := text.toList
  let stars := cs.count '*'
  let advances := stars = 0
  let stride := if cs.contains '/' then 2 else 1
  match Text.hexNumbers cs with
  | [] => ⟨after, 0, 1, false, []⟩
  | gap :: rest =>
    if advances || stars = 2 then ⟨after + gap, rest.headD 1, stride, advances, rest.tail⟩
    else ⟨after + gap, 1, 1, false, rest⟩

end Mapping

def mappings : Array Mapping :=
  let texts := (" ".intercalate mappingRuns).splitOn " "
  (texts.foldl (fun (found, after) text =>
    let m := Mapping.ofText after text
    (found.push m, m.stop)) ((#[] : Array Mapping), 0)).1

def mappingStarts : Array Nat := mappings.map (·.start)

/-- What a name has for a character: nothing if it cannot hold it. -/
def image? (c : Char) : Option (List Char) :=
  if disallowedCodes.contains c then none
  else if ignoredCodes.contains c then some []
  else match mappings[Text.countUpTo mappingStarts c.toNat - 1]?.bind (·.image? c.toNat) with
    | some ns => some (ns.map Char.ofNat)
    | none => some [c]

def isPlain (c : Char) : Bool := image? c = some [c]

def plain? (cs : List Char) : Option (List Char) :=
  (cs.mapM image?).map fun parts => Text.composed parts.flatten

end SchemaRegistry.Domain
