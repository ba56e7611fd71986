import SchemaRegistry.Json.Writer
import SchemaRegistry.Schema

/-!
Log records.  Every mutation of a registry is a record: a tag, which is the key of its log entry,
and a flat JSON object of texts, which is the value.  Decoding undoes encoding.
-/

namespace SchemaRegistry

inductive Tag
  | schema
  | globalConfig
  | subjectConfig
  | createUser
  deriving DecidableEq, Repr

namespace Tag

def name : Tag → String
  | schema => "schema"
  | globalConfig => "global-config"
  | subjectConfig => "subject-config"
  | createUser => "create-user"

def all : List Tag := [schema, globalConfig, subjectConfig, createUser]

def ofName? (s : String) : Option Tag := all.find? (·.name = s)

@[simp] theorem ofName?_name (t : Tag) : ofName? t.name = some t := by cases t <;> decide

end Tag

def adminStream : String := "admin"

inductive Record
  | schema (client subject text : String)
  | globalConfig (client : String) (level : Level)
  | subjectConfig (client subject : String) (level : Level)
  | createUser (name token : String) (admin : Bool)
  deriving DecidableEq, Repr

inductive RecordError
  | unknownTag (name : String)
  | malformed (tag : Tag) (cause : Json.Error)
  | missingField (tag : Tag) (field : String)
  | level (name : String)
  | adminFlag (text : String)
  deriving DecidableEq, Repr

def RecordError.message : RecordError → String
  | .unknownTag name => s!"unknown record tag: {name}"
  | .malformed tag cause => s!"malformed {tag.name} payload: {cause.message}"
  | .missingField tag field => s!"{tag.name} record is missing field '{field}'"
  | .level name => invalidLevel name
  | .adminFlag text => s!"invalid admin flag: {text}"

namespace Record

def tag : Record → Tag
  | .schema .. => .schema
  | .globalConfig .. => .globalConfig
  | .subjectConfig .. => .subjectConfig
  | .createUser .. => .createUser

/-- The stream a record is appended to: its tenant's, or that of the user directory. -/
def stream : Record → String
  | .schema client _ _ => client
  | .globalConfig client _ => client
  | .subjectConfig client _ _ => client
  | .createUser .. => adminStream

def flag (b : Bool) : String := if b then "true" else "false"

def flag? (s : String) : Option Bool :=
  if s = "true" then some true else if s = "false" then some false else none

def fields : Record → List (String × String)
  | .schema client subject text => [("client", client), ("schema", text), ("subject", subject)]
  | .globalConfig client level => [("client", client), ("compatibility", level.name)]
  | .subjectConfig client subject level =>
    [("client", client), ("compatibility", level.name), ("subject", subject)]
  | .createUser name token admin =>
    [("admin", flag admin), ("client", adminStream), ("name", name), ("token", token)]

def key (r : Record) : String := r.tag.name

def value (r : Record) : Bytes :=
  Json.writeObject (r.fields.map fun f => (f.1, Json.writeString f.2))

/-- A field of a payload; of several with one name the last counts. -/
def field (tag : Tag) (payload : List (String × String)) (name : String) :
    Except RecordError String :=
  match payload.reverse.lookup name with
  | some text => .ok text
  | none => .error (.missingField tag name)

def levelField (tag : Tag) (payload : List (String × String)) : Except RecordError Level := do
  let name ← field tag payload "compatibility"
  match Level.ofName? name with
  | some l => return l
  | none => throw (.level name)

def adminField (payload : List (String × String)) : Except RecordError Bool := do
  let text ← field .createUser payload "admin"
  match flag? text with
  | some b => return b
  | none => throw (.adminFlag text)

def ofPayload (payload : List (String × String)) : Tag → Except RecordError Record
  | .schema => do
    let client ← field .schema payload "client"
    let subject ← field .schema payload "subject"
    let text ← field .schema payload "schema"
    return .schema client subject text
  | .globalConfig => do
    let client ← field .globalConfig payload "client"
    let level ← levelField .globalConfig payload
    return .globalConfig client level
  | .subjectConfig => do
    let client ← field .subjectConfig payload "client"
    let subject ← field .subjectConfig payload "subject"
    let level ← levelField .subjectConfig payload
    return .subjectConfig client subject level
  | .createUser => do
    let admin ← adminField payload
    let name ← field .createUser payload "name"
    let token ← field .createUser payload "token"
    return .createUser name token admin

def decode (key : String) (value : Bytes) : Except RecordError Record :=
  match Tag.ofName? key with
  | none => .error (.unknownTag key)
  | some tag =>
    match Json.readAll Json.readStringMap value with
    | .error e => .error (.malformed tag e)
    | .ok payload => ofPayload payload tag

end Record

end SchemaRegistry
