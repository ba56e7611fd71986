import SchemaRegistry.Host.Basic
import SchemaRegistry.Registry.Gate

namespace SchemaRegistry

inductive AssemblyError
  | log (cause : LogError)
  | backend (cause : StoreError)
  deriving DecidableEq, Repr

def AssemblyError.message : AssemblyError → String
  | .log cause => s!"log transport: {cause.message}"
  | .backend cause => s!"durable backend: {cause.message}"

structure Instance where
  registry : Registry
  topology : Topology
  database : Option String

namespace Instance

def selectTokens (s : AuthSettings) (environment : Option String) :
    Action Host AuthError TokenStore := do
  match VaultConfig.ofSettings? s environment with
  | none =>
    Host.report .tokensInMemory
    return .empty
  | some config =>
    Host.report (.vaultUsed config.address)
    let vault ← (Action.ask fun _ => Vault.connect config).mapError .configuration
    let service ← Action.ask fun h => .ok h.secretService
    return .vault vault service

def openLog (s : LogSettings) : Action Host AssemblyError (Option Log) := do
  if s.enabled then return some (← (Host.openLog s.endpoints).mapError .log)
  else
    Host.report .noLog
    return none

def openBackend (s : BackendSettings) : Action Host AssemblyError (Option (String × Database)) := do
  match s.path with
  | none => return none
  | some path => return some (← (Host.connect path s.connectAttempts).mapError .backend)

def assemble (s : Settings) (tokens : TokenStore) : Action Host AssemblyError Instance := do
  let log ← openLog s.log
  let backend ← openBackend s.backend
  let topology : Topology := if backend.isSome then .logBackendCache else .logCache
  Host.report (.topologyChosen topology)
  return {
    registry := {
      storage := {
        log
        cache := ∅
        backend := backend.map fun b => .database b.2
        outages := [] }
      engine := log.map fun _ => Engine.new s.log.fetchBatch
      requested := []
      tokens
      tenancy := if s.tenancy.multiTenant then .multi else .single s.tenancy.defaultTenant
      policy := ⟨.recordFields, s.compatibility.defaultLevel⟩ }
    topology
    database := backend.map (·.1) }

def close (i : Instance) (h : Host) : Host :=
  let h := match i.registry.storage.log with
    | some log => h.closeLog log
    | none => h
  match i.database, i.registry.storage.backend with
  | some absolute, some (.database d) => h.closeDatabase absolute d
  | _, _ => h

end Instance

end SchemaRegistry
