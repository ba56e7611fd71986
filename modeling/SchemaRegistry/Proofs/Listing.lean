import SchemaRegistry.Proofs.Cache
import SchemaRegistry.Store.Database

/-!
How a cache lists the schemas of a tenant: subject by subject in the order of their names, none
without a schema, and those of a subject in the order of their versions.
-/

namespace SchemaRegistry

namespace Stored

theorem getElem?_versions (n k : Nat) (xs : List Stored) :
    (versions n xs)[k]? = xs[k]?.map fun x => ⟨x.subject, x.id, n + k + 1, x.text⟩ := by
  induction xs generalizing n k with
  | nil => rfl
  | cons x xs ih =>
    cases k with
    | zero => rfl
    | succ k =>
      rw [versions, List.getElem?_cons_succ, ih, List.getElem?_cons_succ, Nat.add_right_comm n 1 k]
      rfl

theorem mem_versions_iff {n : Nat} {xs : List Stored} {s : Schema} :
    s ∈ versions n xs ↔ ∃ k x, xs[k]? = some x ∧ s = ⟨x.subject, x.id, n + k + 1, x.text⟩ := by
  simp only [List.mem_iff_getElem?, getElem?_versions, Option.map_eq_some_iff]
  constructor
  · rintro ⟨k, x, hx, rfl⟩
    exact ⟨k, x, hx, rfl⟩
  · rintro ⟨k, x, hx, rfl⟩
    exact ⟨k, x, hx, rfl⟩

theorem version_le {n : Nat} {xs : List Stored} {s : Schema} (h : s ∈ versions n xs) :
    s.version ≤ n + xs.length := by
  obtain ⟨k, x, hx, rfl⟩ := mem_versions_iff.1 h
  have := (List.getElem?_eq_some_iff.1 hx).1
  simp only
  omega

theorem pairwise_versions (n : Nat) (xs : List Stored) :
    (versions n xs).Pairwise (·.version < ·.version) := by
  rw [← List.pairwise_map, map_version_versions]
  exact List.pairwise_lt_range'

theorem versions_eq_nil_iff {n : Nat} {xs : List Stored} : versions n xs = [] ↔ xs = [] := by
  cases xs <;> simp [versions]

end Stored

namespace Change

theorem storedIn_append (tenant subject : String) (cs ds : List Change) :
    storedIn tenant subject (cs ++ ds) =
      storedIn tenant subject cs ++ storedIn tenant subject ds := by
  rw [storedIn, stored_append, List.filter_append]
  rfl

theorem subject_of_mem_storedIn {tenant subject : String} {changes : List Change} {x : Stored}
    (h : x ∈ storedIn tenant subject changes) : x.subject = subject := by
  simpa using (List.mem_filter.1 h).2

end Change

namespace Database

theorem dedup_replicate_append {a : String} (n : Nat) {rest : List String} (h : a ∉ rest) :
    dedup (List.replicate (n + 1) a ++ rest) = a :: dedup rest := by
  induction n with
  | zero =>
    cases rest with
    | nil => rfl
    | cons b rest =>
      have hne : a ≠ b := fun hab => h (hab ▸ List.mem_cons_self)
      exact if_neg hne
  | succ n ih =>
    rw [List.replicate_succ, List.cons_append]
    rw [List.replicate_succ, List.cons_append] at ih ⊢
    rw [dedup, if_pos rfl, ih]

end Database

namespace Cache

open Change (storedIn)

abbrev of (changes : List Change) : Cache := changes.foldl apply ∅

theorem of_append (cs ds : List Change) : of (cs ++ ds) = ds.foldl apply (of cs) :=
  List.foldl_append

variable {c : Cache} {tenant subject : String} {changes : List Change}

theorem subject_of_mem_subject {s : Schema} (h : s ∈ (of changes).subject tenant subject) :
    s.subject = subject := by
  rw [subject_replayed] at h
  obtain ⟨k, x, hx, rfl⟩ := Stored.mem_versions_iff.1 h
  exact Change.subject_of_mem_storedIn (List.mem_of_getElem? hx)

def Filled (c : Cache) : Prop := ∀ tenant, ∀ e ∈ (c.tenant tenant).entries, e.2 ≠ []

theorem tenant_addSchema (c : Cache) (t s : String) (id : Int) (text : String) :
    (c.addSchema t s id text).tenant tenant =
      if tenant = t then
        (c.tenant t).insert s (c.subject t s ++ [⟨s, id, c.nextVersion t s, text⟩])
      else c.tenant tenant := by
  simp only [addSchema, Cache.tenant, Table.get?_insert]
  split <;> rfl

theorem Filled.apply (h : c.Filled) (change : Change) : (c.apply change).Filled := by
  intro tenant e he
  cases change with
  | schema t s id text =>
    rw [Cache.apply, tenant_addSchema] at he
    split at he
    · rcases Table.mem_insertEntry he with rfl | he
      · exact List.append_ne_nil_of_right_ne_nil _ (List.cons_ne_nil _ _)
      · exact h t e he
    · exact h tenant e he
  | globalLevel => exact h tenant e he
  | subjectLevel => exact h tenant e he
  | user => exact h tenant e he

theorem filled_of (changes : List Change) : (of changes).Filled := by
  have hfold (c : Cache) (h : c.Filled) : (changes.foldl Cache.apply c).Filled := by
    induction changes generalizing c with
    | nil => exact h
    | cons change changes ih => exact ih _ (h.apply change)
  exact hfold ∅ fun _ _ he => absurd he List.not_mem_nil

theorem subject_of_mem_entries {e : String × List Schema} (h : e ∈ (c.tenant tenant).entries) :
    c.subject tenant e.1 = e.2 := by
  rw [Cache.subject, (Table.mem_entries_iff ..).1 h, Option.getD_some]

def ListedBefore (a b : Schema) : Prop :=
  KeyLt a.subject b.subject ∨ a.subject = b.subject ∧ a.version < b.version

theorem pairwise_subject (tenant subject : String) (changes : List Change) :
    ((of changes).subject tenant subject).Pairwise ListedBefore := by
  have hversions : ((of changes).subject tenant subject).Pairwise (·.version < ·.version) := by
    rw [subject_replayed]
    exact Stored.pairwise_versions ..
  refine hversions.imp_of_mem fun ha hb hlt => .inr ⟨?_, hlt⟩
  rw [subject_of_mem_subject ha, subject_of_mem_subject hb]

theorem pairwise_all_of {R : Schema → Schema → Prop}
    (hsubjects : ∀ a b, KeyLt a.subject b.subject → R a b)
    (h : ∀ subject, ((of changes).subject tenant subject).Pairwise R) :
    ((of changes).all tenant).Pairwise R := by
  rw [all, Table.values, List.pairwise_flatten, List.forall_mem_map, List.pairwise_map]
  constructor
  · intro e he
    rw [← subject_of_mem_entries he]
    exact h e.1
  · refine ((of changes).tenant tenant).ordered.imp_of_mem fun {d e} hd he hlt a ha b hb =>
      hsubjects a b ?_
    rw [← subject_of_mem_entries hd] at ha
    rw [← subject_of_mem_entries he] at hb
    rwa [subject_of_mem_subject ha, subject_of_mem_subject hb]

theorem pairwise_all (tenant : String) (changes : List Change) :
    ((of changes).all tenant).Pairwise ListedBefore :=
  pairwise_all_of (fun _ _ => .inl) fun subject => pairwise_subject tenant subject changes

/-- Each subject is listed once, in the place of its first schema. -/
theorem dedup_subjects (tenant : String) (changes : List Change) :
    Database.dedup (((of changes).all tenant).map (·.subject)) =
      ((of changes).tenant tenant).keys := by
  have hlist (es : List (String × List Schema)) (ho : es.Pairwise fun a b => KeyLt a.1 b.1)
      (h : ∀ e ∈ es, e.2 ≠ [] ∧ ∀ s ∈ e.2, s.subject = e.1) :
      Database.dedup ((es.map (·.2)).flatten.map (·.subject)) = es.map (·.1) := by
    induction es with
    | nil => rfl
    | cons e es ih =>
      obtain ⟨hbefore, ho⟩ := List.pairwise_cons.1 ho
      obtain ⟨⟨hne, hsame⟩, hrest⟩ := List.forall_mem_cons.1 h
      have hblock : e.2.map (·.subject) = List.replicate (e.2.length - 1 + 1) e.1 := by
        rw [Nat.sub_add_cancel (List.length_pos_iff.2 hne), List.eq_replicate_iff]
        refine ⟨List.length_map .., fun b hb => ?_⟩
        obtain ⟨s, hs, rfl⟩ := List.mem_map.1 hb
        exact hsame s hs
      have hfresh : e.1 ∉ (es.map (·.2)).flatten.map (·.subject) := by
        intro hmem
        simp only [List.mem_map, List.mem_flatten] at hmem
        obtain ⟨s, ⟨-, ⟨f, hf, rfl⟩, hs⟩, hsubject⟩ := hmem
        rw [(hrest f hf).2 s hs] at hsubject
        exact (hbefore f hf).ne hsubject.symm
      rw [List.map_cons, List.flatten_cons, List.map_append, hblock,
        Database.dedup_replicate_append _ hfresh, ih ho hrest, List.map_cons]
  refine hlist _ ((of changes).tenant tenant).ordered fun e he =>
    ⟨filled_of changes tenant e he, ?_⟩
  intro s hs
  rw [← subject_of_mem_entries he] at hs
  exact subject_of_mem_subject hs

theorem isEmpty_iff (c : Cache) : c.isEmpty ↔ ∀ tenant subject, c.subject tenant subject = [] := by
  simp only [isEmpty, List.all_eq_true, Table.mem_values_iff, List.isEmpty_iff, Cache.subject,
    Cache.tenant]
  constructor
  · intro h tenant subject
    cases ht : c.schemas.get? tenant with
    | none => rfl
    | some subjects =>
      cases hs : subjects.get? subject with
      | none => simp [hs]
      | some ss => simpa [hs] using h subjects ⟨tenant, ht⟩ ss ⟨subject, hs⟩
  · rintro h subjects ⟨tenant, ht⟩ ss ⟨subject, hs⟩
    simpa [ht, hs] using h tenant subject

end Cache

end SchemaRegistry
