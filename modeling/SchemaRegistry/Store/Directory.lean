import SchemaRegistry.Schema
import SchemaRegistry.Table

/-!
The user directory: users by name, and an index from tokens to names.  Adding a user drops the index
entry of the token the same name had before, whoever it belongs to by then.
-/

namespace SchemaRegistry

structure Directory where
  byName : Table User
  byToken : Table String
  deriving DecidableEq

namespace Directory

instance : EmptyCollection Directory := ⟨⟨∅, ∅⟩⟩

instance : Inhabited Directory := ⟨∅⟩

def add (d : Directory) (user : User) : Directory where
  byName := d.byName.insert user.name user
  byToken :=
    let rest := match d.byName.get? user.name with
      | some previous => d.byToken.erase previous.token
      | none => d.byToken
    rest.insert user.token user.name

def userByName? (d : Directory) (name : String) : Option User := d.byName.get? name

def userByToken? (d : Directory) (token : String) : Option User := do
  d.byName.get? (← d.byToken.get? token)

@[simp] theorem userByName?_empty (name : String) : (∅ : Directory).userByName? name = none := rfl

@[simp] theorem userByToken?_empty (token : String) :
    (∅ : Directory).userByToken? token = none := rfl

theorem userByName?_add (d : Directory) (user : User) (name : String) :
    (d.add user).userByName? name = if name = user.name then some user else d.userByName? name :=
  Table.get?_insert ..

end Directory

end SchemaRegistry
