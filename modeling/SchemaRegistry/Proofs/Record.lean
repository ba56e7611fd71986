import SchemaRegistry.Proofs.Json
import SchemaRegistry.Record

namespace SchemaRegistry.Record

theorem flag?_flag (b : Bool) : flag? (flag b) = some b := by cases b <;> rfl

theorem levelField_name {tag : Tag} {payload : List (String × String)} {level : Level}
    (h : field tag payload "compatibility" = .ok level.name) :
    levelField tag payload = .ok level := by
  simp only [levelField, h, bind, Except.bind, Level.ofName?_name]
  rfl

theorem adminField_flag {payload : List (String × String)} {b : Bool}
    (h : field .createUser payload "admin" = .ok (flag b)) : adminField payload = .ok b := by
  simp only [adminField, h, bind, Except.bind, flag?_flag]
  rfl

theorem ofPayload_fields (r : Record) : ofPayload r.fields r.tag = .ok r := by
  cases r with
  | schema client subject text => rfl
  | globalConfig client level =>
    have hlevel : levelField .globalConfig (globalConfig client level).fields = .ok level :=
      levelField_name rfl
    simp only [ofPayload, tag, hlevel]
    rfl
  | subjectConfig client subject level =>
    have hlevel : levelField .subjectConfig (subjectConfig client subject level).fields =
        .ok level :=
      levelField_name rfl
    simp only [ofPayload, tag, hlevel]
    rfl
  | createUser name token admin =>
    have hadmin : adminField (createUser name token admin).fields = .ok admin := adminField_flag rfl
    simp only [ofPayload, tag, hadmin]
    rfl

theorem decode_key_value (r : Record) : decode r.key r.value = .ok r := by
  simp only [decode, key, Tag.ofName?_name, value, Json.readStringMap_writeObject, ofPayload_fields]

end SchemaRegistry.Record
