import SchemaRegistry.Settings.Reading
import SchemaRegistry.Toml.Document

/-!
Where settings come from: a file, and over it environment variables.  A variable is named after its
section and setting, with two underscores before each.
-/

namespace SchemaRegistry.Settings

/-- Put named values over a tree; a name may be a path. -/
def overlay (members : List (String × Tree)) (t : Tree) : Tree :=
  members.foldl (fun t m => Tree.putAt (Tree.path m.1) m.2 t) t

def variableStart : List Char := "schemata__".toList

def dots : List Char → List Char
  | '_' :: '_' :: cs => '.' :: dots cs
  | c :: cs => c :: dots cs
  | [] => []

/-- The path of the setting that a variable is for; case does not matter. -/
def pathOfVariable? (name : String) : Option String :=
  let name := (Text.lower name).toList
  if variableStart.isPrefixOf name then
    some (String.ofList (dots (name.drop variableStart.length)))
  else none

def listPath : String := "log.endpoints"

/-- The value in a variable: a truth value, a number, a list where one is wanted, or a text. -/
def ofVariable (path value : String) : Tree :=
  let word := Text.lower value
  if word = "true" then .bool true
  else if word = "false" then .bool false
  else match (Text.integer? value).filter fun i =>
      -0x8000000000000000 ≤ i && i < 0x8000000000000000 with
    | some i => .integer i
    | none =>
      match Text.real? value with
      | some x => .real x
      | none =>
        if path = listPath then .list ((Text.split ',' value).map .text) else .text value

def ofEnvironment (environment : List (String × String)) : List (String × Tree) :=
  environment.filterMap fun v => do
    let path ← pathOfVariable? v.1
    return (path, ofVariable path v.2)

def paths : List String := [
  "tenancy.multi_tenant", "tenancy.default_tenant",
  "log.endpoints", "log.poll_interval_ms", "log.fetch_batch", "log.sync_on_write",
  "backend.path", "backend.connect_attempts", "backend.retry_delay_ms",
  "auth.vault_address", "auth.vault_token", "auth.vault_mount", "auth.timeout_ms",
  "compatibility.default_level"]

def variableOfPath (path : String) : String :=
  "__".intercalate ("schemata" :: Text.split '.' path)

inductive SourceError
  | unreadable (file : String)
  | invalid
  deriving DecidableEq, Repr

def SourceError.message : SourceError → String
  | .unreadable file => s!"loading configuration from {file}"
  | .invalid => "invalid configuration"

/-- The settings in a file, which may be missing, and in environment variables. -/
def load (file : String) (content : Option String) (environment : List (String × String)) :
    Except SourceError Settings :=
  match (content.map Toml.parse?).getD (some []) with
  | none => .error (.unreadable file)
  | some members =>
    let t := overlay (ofEnvironment environment) (overlay members .empty)
    match reader.tree t with
    | some s => .ok s
    | none => .error .invalid

end SchemaRegistry.Settings
