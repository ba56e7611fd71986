import SchemaRegistry.Registry.Topology
import SchemaRegistry.Store.Error

namespace SchemaRegistry

inductive Severity
  | error
  | warn
  | info
  | debug
  | trace
  deriving DecidableEq, Repr

namespace Severity

def name : Severity → String
  | error => "ERROR"
  | warn => "WARN"
  | info => "INFO"
  | debug => "DEBUG"
  | trace => "TRACE"

def rank : Severity → Nat
  | error => 1
  | warn => 2
  | info => 3
  | debug => 4
  | trace => 5

end Severity

inductive Event
  | starting
  | vaultUsed (address : String)
  | tokensInMemory
  | endpointRefused (endpoint : String) (cause : EndpointError)
  | segmentsOpened (path : String)
  | endpointUsed (endpoint : String)
  | noLog
  | databaseRefused (path : String) (attempt attempts : Nat) (cause : DatabaseFault)
  | databaseOpened (path : String)
  | topologyChosen (topology : Topology)
  | servingTenant (tenant : String)
  | servingUsers
  | ready (topology : Topology) (log multiTenant : Bool)
  | stopping
  deriving DecidableEq, Repr

namespace Event

def severity : Event → Severity
  | endpointRefused .. => .warn
  | databaseRefused .. => .warn
  | _ => .info

def source : Event → String
  | starting => "schemata_server"
  | vaultUsed _ => "schemata_auth"
  | tokensInMemory => "schemata_auth"
  | endpointRefused .. => "schemata_storage::transport"
  | segmentsOpened _ => "schemata_storage::transport::segment"
  | endpointUsed _ => "schemata_storage::transport"
  | noLog => "schemata_registry::app"
  | databaseRefused .. => "schemata_storage::backend::store"
  | databaseOpened _ => "schemata_storage::backend::store"
  | topologyChosen _ => "schemata_registry::app"
  | servingTenant _ => "schemata_registry::gate"
  | servingUsers => "schemata_registry::gate"
  | ready .. => "schemata_server"
  | stopping => "schemata_server"

def text : Event → String
  | starting => "Starting Schemata registry"
  | vaultUsed address => s!"Using Vault token store at {address}"
  | tokensInMemory => "Vault address or token not set, using in-memory token store"
  | endpointRefused endpoint cause => s!"Log endpoint {endpoint} unavailable: {cause.message}"
  | segmentsOpened path => s!"Opened segment log at {Text.quoted path}"
  | endpointUsed endpoint => s!"Using log endpoint {endpoint}"
  | noLog => "No log endpoints configured, running log-less"
  | databaseRefused path attempt attempts cause =>
    s!"Can't open durable backend at {path} (attempt {attempt}/{attempts}): {cause.message}"
  | databaseOpened path => s!"Durable backend opened at {path}"
  | topologyChosen topology => s!"Storage topology: {topology.name}"
  | servingTenant tenant => s!"Single-tenant mode, serving tenant '{tenant}'"
  | servingUsers => "Multi-tenant mode, replaying user directory"
  | ready topology log multiTenant =>
    let log := if log then "on" else "off"
    s!"Registry ready (topology: {topology.name}, log: {log}, multi-tenant: {multiTenant})"
  | stopping => "Shutting down..."

/-- A character as it is shown: those that would steer a terminal are spelled out. -/
def shown (c : Char) : String :=
  let digits := String.ofList (Nat.toDigits 16 c.toNat)
  if ['\x1b', '\x07', '\x08', '\x0c', '\x7f'].contains c then
    "\\x" ++ (if c.toNat < 16 then "0" else "") ++ digits
  else if 0x80 ≤ c.toNat && c.toNat < 0xa0 then "\\u\x7b" ++ digits ++ "\x7d"
  else c.toString

def line (e : Event) : String :=
  s!"{e.severity.name} {e.source}: " ++ String.join (e.text.toList.map shown)

end Event

end SchemaRegistry
