import SchemaRegistry.Level

namespace SchemaRegistry

/-- A version of a subject.  The id is unique within its tenant; versions count from one. -/
structure Schema where
  subject : String
  id : Int
  version : Nat
  text : String
  deriving DecidableEq, Repr, Inhabited

/-- The id of the schema stored at an offset of its tenant's stream: ids start at one and stay
within 64 bits with sign. -/
def Schema.idAt (offset : Nat) : Int :=
  if offset < 0x8000000000000000 then offset + 1 else 0x7fffffffffffffff

theorem Schema.idAt_of_lt {offset : Nat} (h : offset < 0x8000000000000000) :
    Schema.idAt offset = offset + 1 :=
  if_pos h

structure User where
  name : String
  token : String
  admin : Bool
  deriving DecidableEq, Repr, Inhabited

structure LevelSetting where
  compatibility : Level
  deriving DecidableEq, Repr, Inhabited

open Json in
def Schema.layout : Layout Schema where
  name := "Schema"
  fields := [
    .of "subject" (readString "a string") fun a r => { r with subject := a },
    .of "id" (readInteger .i64) fun a r => { r with id := a },
    .of "version" (readInteger .u32) fun a r => { r with version := a.toNat },
    .of "schema" (readString "a string") fun a r => { r with text := a }]
  start := default
  complete := true

open Json in
def User.layout : Layout User where
  name := "User"
  fields := [
    .of "name" (readString "a string") fun a r => { r with name := a },
    .of "token" (readString "a string") fun a r => { r with token := a },
    .of "admin" readBool fun a r => { r with admin := a }]
  start := default
  complete := true

open Json in
def LevelSetting.layout : Layout LevelSetting where
  name := "CompatibilityConfig"
  fields := [.of "compatibility" Level.read fun a r => { r with compatibility := a }]
  start := default
  complete := true

end SchemaRegistry
