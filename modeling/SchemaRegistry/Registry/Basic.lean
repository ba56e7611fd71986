import SchemaRegistry.Auth.TokenStore
import SchemaRegistry.Engine
import SchemaRegistry.Service

namespace SchemaRegistry

/-- Whether all requests act for one tenant, or each for the user that makes it. -/
inductive Tenancy
  | single (tenant : String)
  | multi
  deriving DecidableEq, Repr

structure Registry where
  storage : Storage
  engine : Option Engine
  /-- The streams that were to be watched, each time they were. -/
  requested : List String
  tokens : TokenStore
  tenancy : Tenancy
  policy : Policy

namespace Registry

def onStorage {ε α : Type} (x : Action Storage ε α) : Action Registry ε α :=
  x.within (·.storage) fun s r => { r with storage := s }

def onTokens {α : Type} (call : Call) (x : Action TokenStore AuthError α) :
    Action Registry AuthError α := .of fun r =>
  if r.storage.outages.refuse call then (.error (.unavailable .down), r)
  else (x.within (·.tokens) fun t r => { r with tokens := t }).on r

def watch (r : Registry) (stream : String) : Registry :=
  { r with
    requested := r.requested ++ [stream]
    engine := r.engine.map (·.watch stream) }

def settle (r : Registry) : Registry :=
  match r.engine with
  | none => r
  | some e =>
    let (e, s) := e.settle r.storage
    { r with engine := some e, storage := s }

def shutdown (r : Registry) : Registry := { r with engine := r.engine.map (·.shutdown) }

def streams (r : Registry) : List String := (r.engine.map (·.streams)).getD []

end Registry

end SchemaRegistry
