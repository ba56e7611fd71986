import SchemaRegistry.Proofs.JsonInteger
import SchemaRegistry.Proofs.JsonLayout
import SchemaRegistry.Proofs.Key
import SchemaRegistry.Store.Database

namespace SchemaRegistry

namespace Row

open Json

def Holds (id : Int) : Prop := IntegerKind.i64.least ≤ id ∧ id ≤ IntegerKind.i64.greatest

instance (id : Int) : Decidable (Holds id) := inferInstanceAs (Decidable (_ ∧ _))

theorem takes_encode {r : Row} (h : Holds r.id) :
    layout.Takes [] layout.start [("id", writeInteger r.id), ("schema", writeString r.text)] r := by
  have hid : Reads (readInteger .i64) (writeInteger r.id) r.id := by
    intro rest hrest
    have hrange : -0x8000000000000000 ≤ r.id ∧ r.id ≤ 0x7fffffffffffffff := h
    apply readInteger_write h hrange.1 (by omega)
    cases hrest <;> rintro b ⟨⟩ <;> decide
  have hmet : ["id"].contains "schema" = false := by decide
  have hmissing : layout.missing? ["schema", "id"] = none := by decide
  exact .field rfl rfl (hid.field _ _)
    (.field rfl hmet ((reads_writeString _ r.text).field _ _) (.nil hmissing))

theorem decode_encode {r : Row} (h : Holds r.id) : decode r.encode = .ok r := by
  have hread := (takes_encode h).readAll (List.forall_mem_nil _)
  rwa [List.append_nil] at hread

end Row

namespace Database

theorem decodeRow_encode {t s : String} {v : Nat} {r : Row} (ht : Key.Plain t) (hs : Key.Plain s)
    (hv : v < 0x100000000) (hr : Row.Holds r.id) :
    decodeRow (Key.schema t s v) r.encode = .ok ⟨s, r.id, v, r.text⟩ := by
  simp only [decodeRow, Key.parse?_schema ht hs hv, Row.decode_encode hr]

end Database

end SchemaRegistry
