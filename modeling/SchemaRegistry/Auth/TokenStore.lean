import SchemaRegistry.Auth.Credentials
import SchemaRegistry.Auth.Vault

namespace SchemaRegistry

inductive TokenStore
  | memory (credentials : Credentials)
  | vault (client : Vault) (service : SecretRequest → Exchange)

namespace TokenStore

def empty : TokenStore := .memory ∅

def asked {α : Type} (service : SecretRequest → Exchange)
    (x : (SecretRequest → Unit → Exchange × Unit) → Action Unit AuthError α) : Except AuthError α :=
  ((x fun r _ => (service r, ())).on ()).1

def authorize (t : TokenStore) (name token : String) : Except AuthError Bool :=
  match t with
  | memory c => .ok (c.authorize name token)
  | vault v service => asked service fun send => v.authorize send name token

def isAdmin (t : TokenStore) (name : String) : Except AuthError Bool :=
  match t with
  | memory c => c.isAdmin name
  | vault v service => asked service fun send => v.isAdmin send name

def addUser (name : String) (admin : Bool) (fresh : String) : Action TokenStore AuthError String :=
  .of fun
  | memory c => (.ok fresh, .memory (c.issue name admin fresh))
  | vault v service => (asked service fun send => v.addUser send name admin fresh, .vault v service)

def refresh (name fresh : String) : Action TokenStore AuthError String := .of fun
  | memory c =>
    let (r, c) := (Credentials.refresh name fresh).on c
    (r, .memory c)
  | vault v service => (asked service fun send => v.refresh send name fresh, .vault v service)

end TokenStore

end SchemaRegistry
