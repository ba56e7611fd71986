import SchemaRegistry.Proofs.Table
import SchemaRegistry.Store.Database

/-!
A scan sees the entries whose keys start with a text, each once and in order, and nothing of any
other entry.
-/

namespace SchemaRegistry

namespace Bytes

theorem not_lt_of_isPrefix {p a : Bytes} (h : p <+: a) : ¬ a < p := by
  obtain ⟨rest, rfl⟩ := h
  exact List.not_lt.2 List.le_append_left

theorem isPrefix_of_between {p a b : Bytes} (hpa : ¬ a < p) (hab : a < b) (hb : p <+: b) :
    p <+: a := by
  induction p generalizing a b with
  | nil => exact List.nil_prefix
  | cons x p ih =>
    obtain ⟨rest, rfl⟩ := hb
    cases a with
    | nil => exact absurd (List.nil_lt_cons x p) hpa
    | cons y a =>
      rw [List.cons_lt_cons_iff, not_or, not_and] at hpa
      rcases List.cons_lt_cons_iff.1 hab with hlt | ⟨rfl, hlt⟩
      · exact absurd hlt hpa.1
      · exact List.cons_prefix_cons.2 ⟨rfl, ih (hpa.2 rfl) hlt ⟨rest, rfl⟩⟩

end Bytes

theorem takeWhile_eq_filter {α : Type} {p : α → Bool} {l : List α}
    (h : l.Pairwise fun x y => p y → p x) : l.takeWhile p = l.filter p := by
  induction l with
  | nil => rfl
  | cons x l ih =>
    obtain ⟨hx, hl⟩ := List.pairwise_cons.1 h
    by_cases hp : p x
    · rw [List.takeWhile_cons_of_pos hp, List.filter_cons_of_pos hp, ih hl]
    · rw [List.takeWhile_cons_of_neg hp, List.filter_cons_of_neg hp, eq_comm,
        List.filter_eq_nil_iff]
      exact fun y hy hpy => hp (hx y hy hpy)

namespace Table

variable {α : Type}

theorem filter_insertEntry {p : String → Bool} {k : String} (hk : p k = false) (v : α)
    (es : List (String × α)) :
    (insertEntry k v es).filter (fun e => p e.1) = es.filter fun e => p e.1 := by
  induction es with
  | nil => simp [insertEntry, hk]
  | cons e es ih =>
    obtain ⟨k', v'⟩ := e
    rw [insertEntry]
    split
    · next h => subst h; simp [hk]
    · split
      · simp [hk]
      · simp only [List.filter_cons, ih]

end Table

namespace Database

theorem startsWith_iff {start key : String} : startsWith start key ↔ utf8 start <+: utf8 key :=
  List.isPrefixOf_iff_prefix

theorem takeWhile_listFrom {α : Type} (t : Table α) (start : String) :
    (t.listFrom start).takeWhile (fun e => startsWith start e.1) =
      t.entries.filter fun e => startsWith start e.1 := by
  rw [takeWhile_eq_filter, Table.listFrom, List.filter_filter]
  · congr 1
    funext e
    by_cases hstart : startsWith start e.1
    · have : ¬ KeyLt e.1 start := Bytes.not_lt_of_isPrefix (startsWith_iff.1 hstart)
      simp [hstart, this]
    · simp [hstart]
  · rw [Table.listFrom, List.pairwise_filter]
    refine t.ordered.imp fun hlt hx _ hy => ?_
    rw [decide_eq_true_eq] at hx
    exact startsWith_iff.2 (Bytes.isPrefix_of_between hx hlt (startsWith_iff.1 hy))

theorem scan_eq (d : Database) (start : String) :
    d.scan start = (d.schemas.entries.filter fun e => startsWith start e.1).mapM fun e =>
      decodeRow e.1 e.2 := by
  rw [scan, takeWhile_listFrom]

theorem scan_insert {start key : String} (h : ¬ startsWith start key) (d : Database) (row : Bytes) :
    scan { d with schemas := d.schemas.insert key row } start = d.scan start := by
  rw [scan_eq, scan_eq, Table.insert, Table.filter_insertEntry (by simpa using h)]

end Database

end SchemaRegistry
