import SchemaRegistry.Action
import SchemaRegistry.Auth.Error
import SchemaRegistry.Auth.Status
import SchemaRegistry.Json.Typed
import SchemaRegistry.Json.Writer
import SchemaRegistry.Settings.Basic
import SchemaRegistry.Url.Parse

/-!
Tokens kept by a secret service.  Each user is one secret, at a URL of its own: the service's
address, `v1`, the mount and the user's name, which is one segment whatever characters it has.
-/

namespace SchemaRegistry

structure VaultConfig where
  address : String
  token : String
  mount : String
  timeout : Nat
  deriving DecidableEq, Repr

/-- The settings of a secret service, if there are an address and a token.  A token that is set
counts even when it is empty. -/
def VaultConfig.ofSettings? (s : AuthSettings) (environment : Option String) :
    Option VaultConfig := do
  let address ← s.vaultAddress.filter (· ≠ "")
  let token ← (s.vaultToken.or environment).filter (· ≠ "")
  return ⟨address, token, s.vaultMount, s.timeout⟩

structure Secret where
  token : String
  admin : Bool
  deriving DecidableEq, Repr

structure SecretRequest where
  call : SecretCall
  url : Url
  token : String
  body : Option Bytes
  deriving DecidableEq, Repr

inductive Exchange
  | answered (status : Nat) (body : Bytes)
  | timedOut
  | unreachable
  deriving DecidableEq, Repr

namespace Secret

def write (s : Secret) : Bytes :=
  Json.writeObject [("token", Json.writeString s.token), ("admin", Json.writeBool s.admin)]

open Json in
/-- A token, which must be there, and a flag, which need not. -/
def layout : Layout (Option String × Bool) where
  name := "UserSecret"
  fields := [
    .of "token" (readString "a string") fun a r => (some a, r.2),
    .of "admin" readBool fun a r => (r.1, a)]
  start := (none, false)
  complete := false

open Json in
def responseLayout : Layout (Option String × Bool) where
  name := "ReadResponse"
  fields := [.of "data" layout.read fun a _ => a]
  start := (none, false)
  complete := false

def read? (body : Bytes) : Option Secret :=
  match Json.readAll responseLayout.read body with
  | .ok (some token, admin) => some ⟨token, admin⟩
  | _ => none

end Secret

structure Vault where
  config : VaultConfig
  base : Url
  deriving DecidableEq, Repr

namespace Vault

def connect (c : VaultConfig) : Except VaultFault Vault :=
  if c.token = "" then .error .emptyToken
  else match Url.parse c.address with
    | .error e => .error (.invalidAddress c.address e)
    | .ok base =>
      match base.path with
      | .opaquePath _ => .error (.pathless c.address)
      | .segments _ => .ok ⟨c, base⟩

def mountSegments (mount : String) : List String := (Text.split '/' mount).filter (· ≠ "")

def basePath (base : Url) : List String :=
  match base.path with
  | .segments list => list
  | .opaquePath _ => []

def secretUrl (base : Url) (mount name : String) : Except AuthError Url :=
  if name = "" || name = "." || name = ".." then .error (.invalidUserName name)
  else
    let added := "v1" :: mountSegments mount ++ [name]
    let path := added.foldl (Url.pushSegment base.scheme) (Url.dropEmpty (basePath base))
    .ok { base with path := .segments path }

def isHeaderValue (s : String) : Bool :=
  (utf8 s).all fun b => b = 9 || (32 ≤ b && b ≠ 127)

def longestUrl : Nat := 65534

/-- Whether a URL can be asked: the web has it, and its host has no character that a request line
cannot hold. -/
def isAskable (u : Url) : Bool :=
  (u.scheme = "http" || u.scheme = "https") && (utf8 u.render).length ≤ longestUrl &&
    !(u.host.getD "").toList.any ['"', '\x60', '\x7b', '\x7d'].contains

/-- A request for a user's secret.  Not every URL can be asked; name and password in one are not
part of it. -/
def request (v : Vault) (call : SecretCall) (name : String) (body : Option Bytes) :
    Except AuthError SecretRequest := do
  let url ← secretUrl v.base v.config.mount name
  if url.host.isNone then throw (.unavailable (.unsendable (some url.render)))
  if !isHeaderValue v.config.token then throw (.unavailable (.unsendable none))
  let url := url.withoutUser
  if !isAskable url then throw (.unavailable (.unsendable (some url.render)))
  return ⟨call, url, v.config.token, body⟩

variable {σ : Type} (send : SecretRequest → σ → Exchange × σ)

def exchange (r : SecretRequest) : Action σ AuthError (Nat × Bytes) := .of fun s =>
  match send r s with
  | (.answered status body, s) => (.ok (status, body), s)
  | (.timedOut, s) => (.error .timeout, s)
  | (.unreachable, s) => (.error (.unavailable (.unreachable r.url.render)), s)

def refused (call : SecretCall) (status : Nat) (body : Bytes) : AuthError :=
  .unavailable (.refused call (Status.text status) (Utf8.lossy body))

def read (v : Vault) (name : String) : Action σ AuthError (Option Secret) := do
  let r ← Action.ask fun _ => v.request .read name none
  let (status, body) ← exchange send r
  if status = Status.notFound then return none
  else if !Status.isSuccess status then throw (refused .read status body)
  else match Secret.read? body with
    | some secret => return some secret
    | none => throw .invalidResponse

def write (v : Vault) (name : String) (secret : Secret) : Action σ AuthError Unit := do
  let r ← Action.ask fun _ => v.request .write name (some secret.write)
  let (status, body) ← exchange send r
  if !Status.isSuccess status then throw (refused .write status body)

def authorize (v : Vault) (name token : String) : Action σ AuthError Bool := do
  let secret ← v.read send name
  return secret.any (·.token = token)

def addUser (v : Vault) (name : String) (admin : Bool) (fresh : String) :
    Action σ AuthError String := do
  v.write send name ⟨fresh, admin⟩
  return fresh

def refresh (v : Vault) (name fresh : String) : Action σ AuthError String := do
  match ← v.read send name with
  | none => throw (.userNotFound name)
  | some secret =>
    v.write send name { secret with token := fresh }
    return fresh

def isAdmin (v : Vault) (name : String) : Action σ AuthError Bool := do
  match ← v.read send name with
  | none => throw (.userNotFound name)
  | some secret => return secret.admin

end Vault

end SchemaRegistry
