import SchemaRegistry.Level

namespace SchemaRegistry

structure TenancySettings where
  multiTenant : Bool
  defaultTenant : String
  deriving DecidableEq, Repr

structure LogSettings where
  /-- Where the log may live, in the order of preference; without any there is no log. -/
  endpoints : List String
  pollInterval : Nat
  fetchBatch : Nat
  syncOnWrite : Bool
  deriving DecidableEq, Repr

structure BackendSettings where
  path : Option String
  connectAttempts : Nat
  retryDelay : Nat
  deriving DecidableEq, Repr

structure AuthSettings where
  vaultAddress : Option String
  vaultToken : Option String
  vaultMount : String
  timeout : Nat
  deriving DecidableEq, Repr

structure CompatibilitySettings where
  defaultLevel : Level
  deriving DecidableEq, Repr

structure Settings where
  tenancy : TenancySettings
  log : LogSettings
  backend : BackendSettings
  auth : AuthSettings
  compatibility : CompatibilitySettings
  deriving DecidableEq, Repr

instance : Inhabited TenancySettings := ⟨⟨false, "schemas"⟩⟩
instance : Inhabited LogSettings := ⟨⟨[], 200, 500, true⟩⟩
instance : Inhabited BackendSettings := ⟨⟨none, 15, 3000⟩⟩
instance : Inhabited AuthSettings := ⟨⟨none, none, "secret/token", 5000⟩⟩
instance : Inhabited CompatibilitySettings := ⟨⟨default⟩⟩
instance : Inhabited Settings := ⟨⟨default, default, default, default, default⟩⟩

namespace LogSettings

def enabled (s : LogSettings) : Bool := !s.endpoints.isEmpty

end LogSettings

end SchemaRegistry
