/-!
The command line of the server: options, most of them with a value behind them or behind an equals
sign.
-/

namespace SchemaRegistry

structure Arguments where
  config : String
  logEndpoints : List String
  backendPath : Option String
  multiTenant : Bool
  tenant : Option String
  logLevel : String
  deriving DecidableEq, Repr

instance : Inhabited Arguments :=
  ⟨"/etc/schemata/registry.toml", [], none, false, none, "info"⟩

inductive Invocation
  | run (arguments : Arguments)
  | help
  | version
  deriving DecidableEq, Repr

inductive UsageError
  | unexpected (argument : String)
  | missingValue (option : String)
  | repeated (option : String)
  | needlessValue (value option : String)
  deriving DecidableEq, Repr

def UsageError.message : UsageError → String
  | .unexpected argument => s!"unexpected argument '{argument}' found"
  | .missingValue option => s!"a value is required for '{option}' but none was supplied"
  | .repeated option => s!"the argument '{option}' cannot be used multiple times"
  | .needlessValue value option =>
    s!"unexpected value '{value}' for '{option}' found; no more were expected"

inductive Switch
  | config
  | logEndpoint
  | backendPath
  | multiTenant
  | tenant
  | logLevel
  | help
  | version
  deriving DecidableEq, Repr

namespace Switch

def long : Switch → String
  | config => "config"
  | logEndpoint => "log-endpoint"
  | backendPath => "backend-path"
  | multiTenant => "multi-tenant"
  | tenant => "tenant"
  | logLevel => "log-level"
  | help => "help"
  | version => "version"

def short? : Switch → Option Char
  | config => some 'c'
  | help => some 'h'
  | version => some 'V'
  | _ => none

def valueName? : Switch → Option String
  | config => some "CONFIG"
  | logEndpoint => some "LOG_ENDPOINTS"
  | backendPath => some "BACKEND_PATH"
  | tenant => some "TENANT"
  | logLevel => some "LOG_LEVEL"
  | _ => none

def all : List Switch :=
  [config, logEndpoint, backendPath, multiTenant, tenant, logLevel, help, version]

def display (s : Switch) : String :=
  "--" ++ s.long ++ (match s.valueName? with
    | some name => s!" <{name}>"
    | none => "")

def purpose : Switch → String
  | config => "Configuration file path (TOML, optional) [default: /etc/schemata/registry.toml]"
  | logEndpoint => "Log endpoint (memory://, file://<dir> or a directory), repeatable"
  | backendPath => "Durable backend database file"
  | multiTenant => "Serve many tenants, one log stream each"
  | tenant => "Tenant served in single-tenant mode"
  | logLevel => "Log level [default: info]"
  | help => "Print help"
  | version => "Print version"

def isPath : Switch → Bool
  | config => true
  | backendPath => true
  | _ => false

def store (a : Arguments) (value : String) : Switch → Arguments
  | config => { a with config := value }
  | logEndpoint => { a with logEndpoints := a.logEndpoints ++ [value] }
  | backendPath => { a with backendPath := some value }
  | tenant => { a with tenant := some value }
  | logLevel => { a with logLevel := value }
  | multiTenant => { a with multiTenant := true }
  | help => a
  | version => a

end Switch

namespace Arguments

def help : String :=
  let forms := Switch.all.map fun s =>
    (match s.short? with
      | some c => s!"  -{c}, {s.display}"
      | none => s!"      {s.display}", s.purpose)
  let width := forms.foldl (fun n f => max n f.1.length) 0
  let lines := forms.map fun f =>
    f.1 ++ String.ofList (List.replicate (width - f.1.length + 2) ' ') ++ f.2
  "\n".intercalate (["Schemata multi-tenant schema registry", "",
    "Usage: schemata-server [OPTIONS]", "", "Options:"] ++ lines)

def version : String := "schemata-server 0.1.0"

inductive Shape
  | switch (s : Switch) (attached : Option String)
  | unknown (name : String)
  | stop
  | plain

def atEquals (cs : List Char) : String × Option String :=
  (String.ofList (cs.takeWhile (· ≠ '=')),
    ((cs.dropWhile (· ≠ '=')).tail?).map String.ofList)

/-- What is attached to a one-letter option, without an equals sign in front. -/
def attachedTo : List Char → Option String
  | [] => none
  | '=' :: cs => some (String.ofList cs)
  | cs => some (String.ofList cs)

def shape (argument : String) : Shape :=
  match argument.toList with
  | ['-', '-'] => .stop
  | '-' :: '-' :: cs =>
    let (name, attached) := atEquals cs
    match Switch.all.find? (·.long = name) with
    | some s => .switch s attached
    | none => .unknown ("--" ++ name)
  | '-' :: c :: cs =>
    match Switch.all.find? (·.short? = some c) with
    | some s => .switch s (if s.valueName?.isSome then attachedTo cs else none)
    | none => .unknown ("-" ++ c.toString)
  | _ => .plain

structure State where
  arguments : Arguments
  given : List Switch
  pending : Option (Switch × Option String)

namespace State

def start : State := ⟨default, [], none⟩

/-- Note an option; each may be given once, unless it is a list. -/
def note (st : State) (s : Switch) (value : String) : Except UsageError State :=
  if s ≠ .logEndpoint && st.given.contains s then .error (.repeated s.display)
  else if s.isPath && value = "" then .error (.missingValue s.display)
  else .ok { st with arguments := s.store st.arguments value, given := s :: st.given }

def settle (st : State) : Except UsageError State :=
  match st.pending with
  | none => .ok st
  | some (s, none) => .error (.missingValue s.display)
  | some (s, some value) => { st with pending := none }.note s value

end State

/-- Read arguments.  An option and the value behind it are noted only once the next option is read,
so an argument that cannot be read is the first error there is. -/
def parseFrom (st : State) : List String → Except UsageError Invocation
  | [] => do return .run (← st.settle).arguments
  | argument :: rest =>
    match shape argument with
    | .plain =>
      match st.pending with
      | some (s, none) => parseFrom { st with pending := some (s, some argument) } rest
      | _ => .error (.unexpected argument)
    | .unknown name => .error (.unexpected name)
    | .stop =>
      match rest with
      | [] => do return .run (← st.settle).arguments
      | extra :: _ => .error (.unexpected extra)
    | .switch s attached =>
      match s.valueName?, attached with
      | none, some value => .error (.needlessValue value s.display)
      | none, none => do
        let st ← st.settle
        if s = .help then return .help
        if s = .version then return .version
        parseFrom (← st.note s "") rest
      | some _, some value => do parseFrom (← (← st.settle).note s value) rest
      | some _, none => do parseFrom { ← st.settle with pending := some (s, none) } rest

def parse (arguments : List String) : Except UsageError Invocation :=
  parseFrom .start arguments

end Arguments

end SchemaRegistry
