import SchemaRegistry.Record

/-! Changes of registry state.  A log record is a change once its offset is known. -/

namespace SchemaRegistry

inductive Change
  | schema (tenant subject : String) (id : Int) (text : String)
  | globalLevel (tenant : String) (level : Level)
  | subjectLevel (tenant subject : String) (level : Level)
  | user (user : User)
  deriving DecidableEq, Repr

def Record.change (offset : Nat) : Record → Change
  | .schema client subject text => .schema client subject (Schema.idAt offset) text
  | .globalConfig client level => .globalLevel client level
  | .subjectConfig client subject level => .subjectLevel client subject level
  | .createUser name token admin => .user ⟨name, token, admin⟩

end SchemaRegistry
