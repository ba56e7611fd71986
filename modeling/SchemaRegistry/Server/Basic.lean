import SchemaRegistry.Registry.Assembly
import SchemaRegistry.Server.Arguments
import SchemaRegistry.Server.Filter
import SchemaRegistry.Settings.Source

/-!
The server: it reads its settings, assembles a registry, and runs until it is interrupted.  Settings
come from a file, environment variables and the command line, the last of which wins.
-/

namespace SchemaRegistry

inductive ServerError
  | settings (cause : Settings.SourceError)
  | auth (cause : AuthError)
  | assembly (cause : AssemblyError)
  deriving DecidableEq, Repr

def ServerError.message : ServerError → String
  | .settings cause => cause.message
  | .auth cause => cause.message
  | .assembly cause => cause.message

abbrev Environment := List (String × String)

namespace Server

def override (a : Arguments) (s : Settings) : Settings :=
  { s with
    log := if a.logEndpoints.isEmpty then s.log else { s.log with endpoints := a.logEndpoints }
    backend := { s.backend with path := a.backendPath.or s.backend.path }
    tenancy := ⟨a.multiTenant || s.tenancy.multiTenant, a.tenant.getD s.tenancy.defaultTenant⟩ }

/-- The text of a file of this name, or of this name with `.toml` behind it. -/
def readConfig (d : Disk) (path : String) : Option String := do
  let path := Path.join d.workingDirectory.path path
  ofUtf8? (← (d.read? path).or ((Path.withExtension? path "toml").bind d.read?))

def readSettings (d : Disk) (a : Arguments) (environment : Environment) :
    Except Settings.SourceError Settings :=
  return override a (← Settings.load a.config (readConfig d a.config) environment)

def start (a : Arguments) (environment : Environment) : Action Host ServerError Instance := do
  Host.report .starting
  let s ← (Action.ask fun h => readSettings h.disk a environment).mapError .settings
  let tokens ← (Instance.selectTokens s.auth (environment.lookup "VAULT_TOKEN")).mapError .auth
  let i ← (Instance.assemble s tokens).mapError .assembly
  Host.report (match i.registry.tenancy with
    | .single tenant => .servingTenant tenant
    | .multi => .servingUsers)
  let i := { i with registry := Gate.start i.registry }
  Host.report (.ready i.topology i.registry.engine.isSome s.tenancy.multiTenant)
  return i

def stop (i : Instance) : Action Host ServerError Unit := do
  Host.report .stopping
  .change { i with registry := i.registry.shutdown }.close

/-- The filter for reports: the environment's, if it has one that can be read.  Also what there is
to say about it. -/
def filter (a : Arguments) (environment : Environment) : Filter × List String :=
  match (environment.lookup "RUST_LOG").bind Filter.parse? with
  | some f => (f, [])
  | none => (Filter.ofReadable a.logLevel, Filter.complaints a.logLevel)

structure Outcome where
  exit : Nat
  answer : Option String
  shown : List Event
  complaints : List String

inductive Launch
  | waiting (i : Instance) (shown : Filter) (complaints : List String)
  | ended (outcome : Outcome)

def launch (arguments : List String) (environment : Environment) (h : Host) : Launch × Host :=
  match Arguments.parse arguments with
  | .error e => (.ended ⟨2, none, [], [s!"error: {e.message}"]⟩, h)
  | .ok .help => (.ended ⟨0, some Arguments.help, [], []⟩, h)
  | .ok .version => (.ended ⟨0, some Arguments.version, [], []⟩, h)
  | .ok (.run a) =>
    let (f, complaints) := filter a environment
    match (start a environment).on h with
    | (.ok i, h) => (.waiting i f complaints, h)
    | (.error e, h) =>
      (.ended ⟨1, none, h.events.filter f.shows, complaints ++ [s!"Error: {e.message}"]⟩, h)

def Launch.shown (l : Launch) (h : Host) : List Event :=
  match l with
  | .waiting _ f _ => h.events.filter f.shows
  | .ended outcome => outcome.shown

/-- What happens while a server waits: watched streams are replayed to their ends. -/
def Launch.settle : Launch → Launch
  | .waiting i f complaints => .waiting { i with registry := i.registry.settle } f complaints
  | .ended outcome => .ended outcome

def Launch.interrupt (l : Launch) (h : Host) : Outcome × Host :=
  match l with
  | .ended outcome => (outcome, h)
  | .waiting i f complaints =>
    let (_, h) := (stop i).on h
    (⟨0, none, h.events.filter f.shows, complaints⟩, h)

/-- A whole run, interrupted as soon as the server waits. -/
def run (arguments : List String) (environment : Environment) (h : Host) : Outcome × Host :=
  let (l, h) := launch arguments environment h
  l.interrupt h

end Server

end SchemaRegistry
