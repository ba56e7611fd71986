import Mathlib.Data.Set.List
import SchemaRegistry.Proofs.Key
import SchemaRegistry.Proofs.Scan

/-!
The rows of a database lie in the order of tenants, subjects and versions.  A scan for a tenant or a
subject therefore meets all of their rows one after another, and no other row.
-/

namespace SchemaRegistry

/-- Where the row of a schema lies: under names without a separator, and a version of 32 bits. -/
structure Slot where
  tenant : String
  subject : String
  version : UInt32
  plainTenant : Key.Plain tenant
  plainSubject : Key.Plain subject

namespace Slot

def key (x : Slot) : String := Key.schema x.tenant x.subject x.version.toNat

def Before (x y : Slot) : Prop :=
  KeyLt x.tenant y.tenant ∨ x.tenant = y.tenant ∧
    (KeyLt x.subject y.subject ∨ x.subject = y.subject ∧ x.version < y.version)

def read (x : Slot) (row : Bytes) : Answer Schema :=
  match Row.decode row with
  | .error e => .error (.badRow e)
  | .ok r => .ok ⟨x.subject, r.id, x.version.toNat, r.text⟩

variable {x y : Slot}

theorem version_lt (x : Slot) : x.version.toNat < 0x100000000 := x.version.toNat_lt

theorem key_lt_iff (x y : Slot) : KeyLt x.key y.key ↔ x.Before y := by
  have hx := x.version_lt
  have hy := y.version_lt
  rw [key, key, Before, UInt32.lt_iff_toNat_lt]
  exact Key.schema_lt_iff x.plainTenant y.plainTenant x.plainSubject y.plainSubject (by omega)
    (by omega)

theorem key_injective (h : x.key = y.key) : x = y := by
  obtain ⟨htenant, hsubject, hversion⟩ :=
    Key.schema_inj x.plainTenant y.plainTenant y.plainSubject h
  cases x
  cases y
  simp only [mk.injEq]
  exact ⟨htenant, hsubject, UInt32.toNat_inj.1 hversion⟩

theorem parse?_key (x : Slot) : Key.parse? x.key = some (x.subject, x.version.toNat) :=
  Key.parse?_schema x.plainTenant x.plainSubject x.version_lt

theorem decodeRow_key (x : Slot) (row : Bytes) : Database.decodeRow x.key row = x.read row := by
  rw [Database.decodeRow, x.parse?_key]
  rfl

theorem startsWith_tenantPrefix {tenant : String} (h : Key.Plain tenant) (x : Slot) :
    Database.startsWith (Key.tenantPrefix tenant) x.key ↔ x.tenant = tenant := by
  rw [Database.startsWith_iff, key, Key.tenantPrefix_isPrefix_schema h x.plainTenant, eq_comm]

/-- The prefix of a name with a separator is in front of no row. -/
theorem startsWith_subjectPrefix (tenant subject : String) (x : Slot) :
    Database.startsWith (Key.subjectPrefix tenant subject) x.key ↔
      x.tenant = tenant ∧ x.subject = subject := by
  rw [Database.startsWith_iff, key]
  constructor
  · intro hstart
    obtain ⟨htenant, -⟩ := Key.plain_of_isPrefix x.plainTenant x.plainSubject hstart
    obtain ⟨rfl, rfl⟩ :=
      (Key.subjectPrefix_isPrefix_schema htenant x.plainTenant x.plainSubject _).1 hstart
    exact ⟨rfl, rfl⟩
  · rintro ⟨rfl, rfl⟩
    exact (Key.subjectPrefix_isPrefix_schema x.plainTenant x.plainTenant x.plainSubject _).2
      ⟨rfl, rfl⟩

theorem mapM_read {rows : List (Slot × Bytes)} (h : ∀ e ∈ rows, ∃ r, Row.decode e.2 = .ok r) :
    ∃ xs, (rows.mapM fun e => e.1.read e.2) = .ok xs ∧
      xs.map (fun s => (s.subject, s.version)) =
        rows.map fun e => (e.1.subject, e.1.version.toNat) := by
  induction rows with
  | nil => exact ⟨[], rfl, rfl⟩
  | cons e rows ih =>
    obtain ⟨⟨r, hr⟩, h⟩ := List.forall_mem_cons.1 h
    obtain ⟨xs, hxs, hplaces⟩ := ih h
    have hread : e.1.read e.2 = .ok ⟨e.1.subject, r.id, e.1.version.toNat, r.text⟩ := by
      rw [read, hr]
    refine ⟨⟨e.1.subject, r.id, e.1.version.toNat, r.text⟩ :: xs, ?_, ?_⟩
    · rw [List.mapM_cons, hread, hxs]
      rfl
    · rw [List.map_cons, List.map_cons, hplaces]

end Slot

namespace Database

def Slotted (d : Database) : Prop :=
  ∀ key row, d.schemas.get? key = some row → ∃ x : Slot, x.key = key

/-- A scan reads the rows that lie in these slots one after another: all of them, each once, and no
others. -/
structure Visits (d : Database) (start : String) (among : Slot → Prop)
    (visited : List (Slot × Bytes)) : Prop where
  mem_iff : ∀ e, e ∈ visited ↔ d.schemas.get? e.1.key = some e.2 ∧ among e.1
  ordered : visited.Pairwise fun e f => e.1.Before f.1
  scan : d.scan start = visited.mapM fun e => e.1.read e.2
  readable : (∀ e ∈ visited, ∃ r, Row.decode e.2 = .ok r) →
    ∃ xs, d.scan start = .ok xs ∧
      xs.map (fun s => (s.subject, s.version)) =
        visited.map fun e => (e.1.subject, e.1.version.toNat)

variable {d : Database} {start : String} {among : Slot → Prop}

theorem slotted_empty : (∅ : Database).Slotted := fun key row hrow => by
  have hnone : (∅ : Database).schemas.get? key = none := Table.get?_empty key
  rw [hnone] at hrow
  cases hrow

theorem Slotted.insert (h : d.Slotted) (x : Slot) (row : Bytes) :
    Slotted { d with schemas := d.schemas.insert x.key row } := by
  intro key row' hrow
  rw [Table.get?_insert] at hrow
  split at hrow
  · next hkey => exact ⟨x, hkey.symm⟩
  · exact h key row' hrow

theorem Slotted.visits (h : d.Slotted) (hamong : ∀ x : Slot, startsWith start x.key ↔ among x) :
    ∃ visited, d.Visits start among visited := by
  let entry (e : Slot × Bytes) : String × Bytes := (e.1.key, e.2)
  obtain ⟨visited, hvisited⟩ :
      d.schemas.entries.filter (fun e => startsWith start e.1) ∈ Set.range (List.map entry) := by
    rw [Set.range_list_map]
    intro e he
    obtain ⟨x, hx⟩ := h e.1 e.2 ((Table.mem_entries_iff ..).1 (List.mem_filter.1 he).1)
    exact ⟨(x, e.2), Prod.ext hx rfl⟩
  have hinjective : Function.Injective entry := fun e f heq =>
    Prod.ext (Slot.key_injective (congrArg Prod.fst heq)) (congrArg Prod.snd heq :)
  have hscan : d.scan start = visited.mapM fun e => e.1.read e.2 := by
    rw [scan_eq, ← hvisited, List.mapM_map]
    congr 1
    funext e
    exact e.1.decodeRow_key e.2
  refine ⟨visited, fun e => ?_, ?_, hscan, fun hrows => ?_⟩
  · rw [← List.mem_map_of_injective hinjective, hvisited, List.mem_filter, Table.mem_entries_iff,
      hamong]
  · have hordered := d.schemas.ordered.filter fun e => startsWith start e.1
    rw [← hvisited, List.pairwise_map] at hordered
    exact hordered.imp fun hlt => (Slot.key_lt_iff ..).1 hlt
  · rw [hscan]
    exact Slot.mapM_read hrows

/-- Keys are ordered as their slots are and tell them, and a scan for a tenant or a subject meets
all of its rows and no others. -/
theorem Slotted.scan_rows (h : d.Slotted) :
    (∀ x y : Slot, KeyLt x.key y.key ↔ x.Before y) ∧
      (∀ x : Slot, Key.parse? x.key = some (x.subject, x.version.toNat)) ∧
      (∀ tenant, Key.Plain tenant →
        ∃ visited, d.Visits (Key.tenantPrefix tenant) (fun x => x.tenant = tenant) visited) ∧
      ∀ tenant subject, ∃ visited,
        d.Visits (Key.subjectPrefix tenant subject)
          (fun x => x.tenant = tenant ∧ x.subject = subject) visited :=
  ⟨Slot.key_lt_iff, Slot.parse?_key,
    fun _ htenant => h.visits (Slot.startsWith_tenantPrefix htenant),
    fun tenant subject => h.visits (Slot.startsWith_subjectPrefix tenant subject)⟩

theorem scan_rows_nested :
    let put (d : Database) (x : Slot) (id : Int) : Database :=
      { d with schemas := d.schemas.insert x.key (Row.encode ⟨id, "x"⟩) }
    let second : Slot := ⟨"t", "s", 2, by decide, by decide⟩
    let tenth : Slot := ⟨"t", "s", 10, by decide, by decide⟩
    let d := put (put (put (put (put ∅ tenth 1) ⟨"t", "s-a", 1, by decide, by decide⟩ 2)
      ⟨"t-u", "s", 1, by decide, by decide⟩ 3) second 4) ⟨"", "", 1, by decide, by decide⟩ 5
    d.Slotted ∧ KeyLt second.key tenth.key ∧
    Key.parse? tenth.key = some ("s", 10) ∧
    (∃ visited, d.Visits (Key.tenantPrefix "t") (fun x => x.tenant = "t") visited) ∧
    (∃ visited,
      d.Visits (Key.subjectPrefix "t" "s") (fun x => x.tenant = "t" ∧ x.subject = "s") visited) ∧
    d.tenant "t" = .ok [⟨"s", 4, 2, "x"⟩, ⟨"s", 1, 10, "x"⟩, ⟨"s-a", 2, 1, "x"⟩] := by
  intro put second tenth d
  have hd : d.Slotted :=
    ((((slotted_empty.insert _ _).insert _ _).insert _ _).insert _ _).insert _ _
  obtain ⟨horder, hparse, htenant, hsubject⟩ := hd.scan_rows
  exact ⟨hd, (horder second tenth).2 (.inr ⟨rfl, .inr ⟨rfl, by decide⟩⟩), hparse tenth,
    htenant "t" (by decide), hsubject "t" "s", by decide +kernel⟩

end Database

end SchemaRegistry
