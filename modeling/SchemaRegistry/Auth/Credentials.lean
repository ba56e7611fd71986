import SchemaRegistry.Action
import SchemaRegistry.Auth.Error
import SchemaRegistry.Table

/-!
Tokens kept in memory: each user has one, the last that was issued to it, and a flag that says
whether it is an administrator.  A token to issue comes from outside, new each time.
-/

namespace SchemaRegistry

structure Credential where
  token : String
  admin : Bool
  deriving DecidableEq, Repr

abbrev Credentials := Table Credential

namespace Credentials

/-- A token is good only for the user it was last issued to. -/
def authorize (c : Credentials) (name token : String) : Bool :=
  (c.get? name).any (·.token = token)

def issue (c : Credentials) (name : String) (admin : Bool) (fresh : String) : Credentials :=
  c.insert name ⟨fresh, admin⟩

def refresh (name fresh : String) : Action Credentials AuthError String := .of fun c =>
  match c.get? name with
  | some old => (.ok fresh, c.insert name ⟨fresh, old.admin⟩)
  | none => (.error (.userNotFound name), c)

def isAdmin (c : Credentials) (name : String) : Except AuthError Bool :=
  match c.get? name with
  | some credential => .ok credential.admin
  | none => .error (.userNotFound name)

end Credentials

end SchemaRegistry
