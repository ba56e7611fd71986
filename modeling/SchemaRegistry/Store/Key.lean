import SchemaRegistry.Text.Numeral

/-!
Keys of a durable store.  A schema lies under its tenant, its subject and its version, separated by
NUL; the version has ten digits, so that the order of keys is the order of versions.
-/

namespace SchemaRegistry.Key

def separator : Char := '\x00'

def tenantPrefix (tenant : String) : String := tenant ++ separator.toString

def subjectPrefix (tenant subject : String) : String :=
  tenant ++ separator.toString ++ subject ++ separator.toString

/-- Decimal digits, ten of them at least. -/
def padded (n : Nat) : String :=
  let digits := Nat.toDigits 10 n
  String.ofList (List.replicate (10 - digits.length) '0' ++ digits)

def schema (tenant subject : String) (version : Nat) : String :=
  subjectPrefix tenant subject ++ padded version

def subjectLevel (tenant subject : String) : String := tenant ++ separator.toString ++ subject

def cut : List Char → Option (List Char × List Char)
  | [] => none
  | c :: cs =>
    if c = separator then some ([], cs)
    else (cut cs).map fun (before, behind) => (c :: before, behind)

def parse? (key : String) : Option (String × Nat) := do
  let (_, rest) ← cut key.toList
  let (subject, version) ← cut rest
  let version ← (Text.natural? (String.ofList version)).filter (· < 0x100000000)
  return (String.ofList subject, version)

end SchemaRegistry.Key
