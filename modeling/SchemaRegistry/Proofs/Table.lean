import Mathlib.Data.List.Induction
import Mathlib.Data.List.Sort
import SchemaRegistry.Table

namespace SchemaRegistry.Table

variable {α : Type}

theorem mem_of_lookup {es : List (String × α)} {k : String} {v : α} (h : es.lookup k = some v) :
    (k, v) ∈ es := by
  induction es with
  | nil => simp at h
  | cons e es ih =>
    rw [lookup_cons_ite] at h
    split at h
    · next hk =>
      cases h
      exact hk ▸ List.mem_cons_self
    · exact List.mem_cons_of_mem _ (ih h)

theorem lookup_of_mem {es : List (String × α)} (ho : es.Pairwise fun a b => KeyLt a.1 b.1)
    {e : String × α} (h : e ∈ es) : es.lookup e.1 = some e.2 := by
  induction es with
  | nil => simp at h
  | cons f es ih =>
    obtain ⟨hfirst, hrest⟩ := List.pairwise_cons.1 ho
    rw [lookup_cons_ite]
    rcases List.mem_cons.1 h with rfl | h
    · simp
    · rw [if_neg (hfirst e h).ne.symm, ih hrest h]

theorem mem_entries_iff (t : Table α) (e : String × α) : e ∈ t.entries ↔ t.get? e.1 = some e.2 :=
  ⟨lookup_of_mem t.ordered, mem_of_lookup⟩

theorem mem_values_iff (t : Table α) (v : α) : v ∈ t.values ↔ ∃ k, t.get? k = some v := by
  rw [values, List.mem_map]
  constructor
  · rintro ⟨e, he, rfl⟩
    exact ⟨e.1, (t.mem_entries_iff e).1 he⟩
  · rintro ⟨k, hk⟩
    exact ⟨(k, v), (t.mem_entries_iff (k, v)).2 hk, rfl⟩

theorem entries_eq {es fs : List (String × α)}
    (hes : es.Pairwise fun a b => KeyLt a.1 b.1) (hfs : fs.Pairwise fun a b => KeyLt a.1 b.1)
    (h : ∀ e, e ∈ es ↔ e ∈ fs) : es = fs := by
  have : Std.Irrefl fun a b : String × α => KeyLt a.1 b.1 := ⟨fun a => KeyLt.irrefl a.1⟩
  have : Std.Antisymm fun a b : String × α => KeyLt a.1 b.1 :=
    ⟨fun _ _ hab hba => absurd (hab.trans hba) (KeyLt.irrefl _)⟩
  exact hes.eq_of_mem_iff hfs h

theorem ext_get? {t u : Table α} (h : ∀ key, t.get? key = u.get? key) : t = u :=
  Table.ext (entries_eq t.ordered u.ordered fun e => by rw [mem_entries_iff, mem_entries_iff, h])

theorem get?_ofList {es : List (String × α)} (hkeys : (es.map (·.1)).Nodup) (key : String) (v : α) :
    (ofList es).get? key = some v ↔ (key, v) ∈ es := by
  induction es using List.reverseRecOn with
  | nil => simp [ofList]
  | append_singleton es e ih =>
    rw [List.map_append, List.nodup_append] at hkeys
    obtain ⟨hes, -, hlast⟩ := hkeys
    have hnew : ∀ w, (e.1, w) ∉ es := fun w hw =>
      hlast e.1 (List.mem_map.2 ⟨_, hw, rfl⟩) e.1 (by simp) rfl
    have hinsert : ofList (es ++ [e]) = (ofList es).insert e.1 e.2 := List.foldl_append ..
    rw [hinsert, get?_insert, List.mem_append, List.mem_singleton]
    split
    · next hkey =>
      subst hkey
      simp [hnew, Prod.ext_iff, eq_comm]
    · next hkey => simp [ih hes, Prod.ext_iff, hkey]

theorem ofList_perm {es fs : List (String × α)} (hkeys : (es.map (·.1)).Nodup) (h : es.Perm fs) :
    ofList es = ofList fs :=
  ext_get? fun key => Option.ext fun v => by
    rw [get?_ofList hkeys, get?_ofList ((h.map _).nodup_iff.1 hkeys), h.mem_iff]

end SchemaRegistry.Table
