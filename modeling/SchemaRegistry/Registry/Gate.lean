import SchemaRegistry.Registry.Basic

/-!
The gate of a registry: it tells which tenant a request acts for.  With many tenants a request needs
the name and token of a user; the first time one is accepted, the user is published and its stream
is watched.
-/

namespace SchemaRegistry

inductive GateError
  | missingCredentials
  | unauthorized (name : String)
  | notAdmin (name : String)
  | auth (cause : AuthError)
  | storage (cause : StorageError)
  deriving DecidableEq, Repr

def GateError.message : GateError → String
  | .missingCredentials => "user name and token required"
  | .unauthorized name => s!"client authorization required for {name}"
  | .notAdmin name => s!"user {name} is not an administrator"
  | .auth cause => s!"authorization backend error: {cause.message}"
  | .storage cause => cause.message

namespace Gate

def authorize (name token : String) : Action Registry AuthError Bool :=
  Registry.onTokens .tokensAuthorize (.ask (·.authorize name token))

def isAdmin (name : String) : Action Registry AuthError Bool :=
  Registry.onTokens .tokensIsAdmin (.ask (·.isAdmin name))

def addUser (name : String) (admin : Bool) (fresh : String) : Action Registry AuthError String :=
  Registry.onTokens .tokensAddUser (TokenStore.addUser name admin fresh)

def refresh (name fresh : String) : Action Registry AuthError String :=
  Registry.onTokens .tokensRefreshToken (TokenStore.refresh name fresh)

def start (r : Registry) : Registry :=
  match r.tenancy with
  | .single tenant => r.watch tenant
  | .multi => r.watch adminStream

def publish (user : User) : Action Registry GateError Unit :=
  (Registry.onStorage (Storage.publishUser user)).mapError .storage

def remember (user : User) : Action Registry GateError Unit :=
  (Registry.onStorage (Storage.changeCache (.user user))).mapError fun e => .storage (.store e)

def adminOrNot (name : String) : Action Registry GateError Bool := .of fun r =>
  match (isAdmin name).on r with
  | (.ok admin, r) => (.ok admin, r)
  | (.error _, r) => (.ok false, r)

def letIn (name token : String) : Action Registry GateError String := do
  if ← (authorize name token).mapError .auth then
    let user := ⟨name, token, ← adminOrNot name⟩
    remember user
    .change (·.watch name)
    publish user
    return name
  else throw (.unauthorized name)

def known (r : Registry) (name token : String) : Bool :=
  (r.storage.view.userByName? name).any (·.token = token)

def authenticate (name token : String) : Action Registry GateError String := do
  if ← .ask fun r => .ok (known r name token) then
    .change (·.watch name)
    return name
  else letIn name token

/-- The tenant a request acts for.  Empty credentials count as missing. -/
def resolve (name token : Option String) : Action Registry GateError String := do
  match ← .ask fun r => .ok r.tenancy with
  | .single tenant => return tenant
  | .multi =>
    match name.filter (· ≠ ""), token.filter (· ≠ "") with
    | some name, some token => authenticate name token
    | _, _ => throw .missingCredentials

def requireAdmin (name : String) : Action Registry GateError Unit := do
  if ← (isAdmin name).mapError .auth then return () else throw (.notAdmin name)

def createUser (name : String) (admin : Bool) (fresh : String) :
    Action Registry GateError String := do
  let token ← (addUser name admin fresh).mapError .auth
  publish ⟨name, token, admin⟩
  return token

def refreshToken (name fresh : String) : Action Registry GateError String := do
  let token ← (refresh name fresh).mapError .auth
  let admin ← (isAdmin name).mapError .auth
  publish ⟨name, token, admin⟩
  return token

end Gate

end SchemaRegistry
