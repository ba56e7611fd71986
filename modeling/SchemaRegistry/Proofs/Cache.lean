import SchemaRegistry.Proofs.Table
import SchemaRegistry.Proofs.Versions
import SchemaRegistry.Store.Cache

/-!
What a sequence of changes makes of a cache.  The schemas of a subject are those stored for it,
numbered from one, and a level is the last one that was set.
-/

namespace SchemaRegistry

namespace Change

def stored? (tenant : String) : Change → Option Stored
  | schema t subject id text => if t = tenant then some ⟨subject, id, text⟩ else none
  | _ => none

def stored (tenant : String) (changes : List Change) : List Stored :=
  changes.filterMap (stored? tenant)

def storedIn (tenant subject : String) (changes : List Change) : List Stored :=
  (stored tenant changes).filter (·.subject = subject)

def globalLevel? (tenant : String) : Change → Option Level
  | globalLevel t level => if t = tenant then some level else none
  | _ => none

def subjectLevel? (tenant subject : String) : Change → Option Level
  | subjectLevel t s level => if t = tenant ∧ s = subject then some level else none
  | _ => none

theorem stored_append (tenant : String) (cs ds : List Change) :
    stored tenant (cs ++ ds) = stored tenant cs ++ stored tenant ds :=
  List.filterMap_append

theorem storedIn_cons (tenant subject : String) (change : Change) (cs : List Change) :
    storedIn tenant subject (change :: cs) =
      storedIn tenant subject [change] ++ storedIn tenant subject cs := by
  rw [storedIn, ← List.singleton_append, stored_append, List.filter_append]
  rfl

end Change

namespace Cache

open Change (stored storedIn)
open Stored (versions)

variable {tenant subject : String}

theorem subject_apply {c : Cache} {xs : List Stored} (h : c.subject tenant subject = versions 0 xs)
    (change : Change) :
    (c.apply change).subject tenant subject =
      versions 0 (xs ++ storedIn tenant subject [change]) := by
  cases change with
  | schema t s id text =>
    rw [apply, subject_addSchema]
    split
    · next hsame =>
      obtain ⟨rfl, rfl⟩ := hsame
      rw [nextVersion, h, Stored.greatest_versions]
      simp [storedIn, stored, Change.stored?, Stored.versions_append, versions]
    · next hother =>
      have hnone : storedIn tenant subject [.schema t s id text] = [] := by
        by_cases ht : t = tenant
        · have hs : ¬ s = subject := fun hs => hother ⟨ht.symm, hs.symm⟩
          simp [storedIn, stored, Change.stored?, ht, hs]
        · simp [storedIn, stored, Change.stored?, ht]
      rw [hnone, List.append_nil, h]
  | globalLevel => rw [show storedIn tenant subject _ = [] from rfl, List.append_nil]; exact h
  | subjectLevel => rw [show storedIn tenant subject _ = [] from rfl, List.append_nil]; exact h
  | user => rw [show storedIn tenant subject _ = [] from rfl, List.append_nil]; exact h

theorem subject_foldl {c : Cache} {xs : List Stored} (h : c.subject tenant subject = versions 0 xs)
    (changes : List Change) :
    (changes.foldl apply c).subject tenant subject =
      versions 0 (xs ++ storedIn tenant subject changes) := by
  induction changes generalizing c xs with
  | nil => simpa [storedIn, stored] using h
  | cons change changes ih =>
    rw [List.foldl_cons, ih (subject_apply h change), List.append_assoc,
      ← Change.storedIn_cons _ _ change changes]

theorem foldl_last {α : Type} (read : Cache → Option α) (f : Change → Option α)
    (h : ∀ c change, read (apply c change) = (f change).or (read c)) (c : Cache)
    (changes : List Change) :
    read (changes.foldl apply c) = ((changes.filterMap f).getLast?).or (read c) := by
  induction changes generalizing c with
  | nil => rfl
  | cons change changes ih =>
    rw [List.foldl_cons, ih, h, List.filterMap_cons]
    cases f change with
    | none => rfl
    | some a =>
      rw [List.getLast?_cons]
      cases (changes.filterMap f).getLast? <;> rfl

theorem globalLevel_apply (c : Cache) (change : Change) :
    (c.apply change).globalLevels.get? tenant =
      (change.globalLevel? tenant).or (c.globalLevels.get? tenant) := by
  cases change with
  | globalLevel t level =>
    simp only [apply, setGlobalLevel, Table.get?_insert, Change.globalLevel?, eq_comm (a := tenant)]
    split <;> rfl
  | schema => rfl
  | subjectLevel => rfl
  | user => rfl

theorem subjectLevel_apply (c : Cache) (change : Change) :
    ((c.apply change).levels tenant).get? subject =
      (change.subjectLevel? tenant subject).or ((c.levels tenant).get? subject) := by
  cases change with
  | subjectLevel t s level =>
    simp only [apply, levels_setSubjectLevel, Change.subjectLevel?, eq_comm (a := tenant),
      eq_comm (a := subject)]
    split <;> rfl
  | schema => rfl
  | globalLevel => rfl
  | user => rfl

theorem mem_all_iff (c : Cache) (s : Schema) :
    s ∈ c.all tenant ↔ ∃ subject, s ∈ c.subject tenant subject := by
  simp only [all, List.mem_flatten, Table.mem_values_iff, Cache.subject]
  constructor
  · rintro ⟨ss, ⟨subject, hget⟩, hs⟩
    exact ⟨subject, by rwa [hget]⟩
  · rintro ⟨subject, hs⟩
    cases hget : (c.tenant tenant).get? subject with
    | none => simp [hget] at hs
    | some ss => exact ⟨ss, ⟨subject, hget⟩, by simpa [hget] using hs⟩

/-- A cache that gives the answers which changes lead to. -/
structure Reflects (c : Cache) (tenant : String) (changes : List Change) : Prop where
  textOfId : ∀ x ∈ stored tenant changes, c.view.textOfId? tenant x.id = .ok (some x.text)
  versions : ∀ subject, c.view.versions? tenant subject =
    .ok (if storedIn tenant subject changes = [] then none
      else some (List.range' 1 (storedIn tenant subject changes).length))
  text : ∀ subject k, c.view.text? tenant subject (k + 1) =
    .ok ((storedIn tenant subject changes)[k]?.map (·.text))
  latest : ∀ subject, c.view.latest? tenant subject =
    .ok ((storedIn tenant subject changes).getLast?.map fun x =>
      ⟨x.subject, x.id, (storedIn tenant subject changes).length, x.text⟩)
  find : ∀ subject text, c.view.find? tenant subject text =
    .ok ((Stored.versions 0 (storedIn tenant subject changes)).find? (·.text = text))
  globalLevel : c.view.globalLevel? tenant =
    .ok (changes.filterMap (Change.globalLevel? tenant)).getLast?
  subjectLevel : ∀ subject, c.view.subjectLevel? tenant subject =
    .ok (changes.filterMap (Change.subjectLevel? tenant subject)).getLast?

theorem subject_replayed (tenant subject : String) (changes : List Change) :
    (changes.foldl apply ∅).subject tenant subject =
      versions 0 (storedIn tenant subject changes) := by
  have hempty : (∅ : Cache).subject tenant subject = versions 0 [] := rfl
  have := subject_foldl hempty changes
  rwa [List.nil_append] at this

theorem textOfId?_replayed {changes : List Change}
    (hids : (stored tenant changes).Pairwise (·.id < ·.id)) {x : Stored}
    (hx : x ∈ stored tenant changes) :
    (changes.foldl apply ∅).view.textOfId? tenant x.id = .ok (some x.text) := by
  have hmem (s : Schema) : s ∈ (changes.foldl apply ∅).all tenant ↔
      ∃ subject, s ∈ versions 0 (storedIn tenant subject changes) := by
    simp only [mem_all_iff, subject_replayed]
  have hxin : x ∈ storedIn tenant x.subject changes := List.mem_filter.2 ⟨hx, by simp⟩
  obtain ⟨s, hs, hid⟩ := Stored.exists_mem_versions hxin 0
  cases hfind : ((changes.foldl apply ∅).all tenant).find? (·.id = x.id) with
  | none =>
    have := List.find?_eq_none.1 hfind s ((hmem s).2 ⟨_, hs⟩)
    simp [hid] at this
  | some found =>
    -- what is found has the same id, so it was stored by the same change
    obtain ⟨subject, hfound⟩ := (hmem found).1 (List.mem_of_find?_eq_some hfind)
    obtain ⟨y, hy, hyid, hytext⟩ := Stored.exists_of_mem_versions hfound
    have hfoundid : found.id = x.id := by simpa using List.find?_some hfind
    have hsame : y = x := Stored.eq_of_id_eq hids (List.mem_filter.1 hy).1 hx (hyid.trans hfoundid)
    simp only [view, hfind, Option.map_some, ← hytext, hsame]

theorem reflects_replayed {changes : List Change}
    (hids : (stored tenant changes).Pairwise (·.id < ·.id)) :
    (changes.foldl apply ∅).Reflects tenant changes where
  textOfId _ hx := textOfId?_replayed hids hx
  versions subject := by
    simp only [view, subject_replayed, Stored.map_version_versions]
    congr 1
    cases storedIn tenant subject changes <;> rfl
  text subject k := by
    have hfind := Stored.find?_version 0 k (storedIn tenant subject changes)
    rw [Nat.zero_add] at hfind
    simp only [view, subject_replayed, hfind, ← List.getElem?_map, Stored.map_text_versions]
  latest subject := by
    simp only [view, subject_replayed, Stored.latest?_versions, Stored.getLast?_versions,
      Nat.zero_add]
  find subject text := by simp only [view, subject_replayed, Stored.earliest?_versions]
  globalLevel := by
    have := foldl_last (·.globalLevels.get? tenant) _ globalLevel_apply ∅ changes
    exact congrArg Except.ok (this.trans Option.or_none)
  subjectLevel subject := by
    have := foldl_last (fun c => (c.levels tenant).get? subject) _ subjectLevel_apply ∅ changes
    exact congrArg Except.ok (this.trans Option.or_none)

end Cache

end SchemaRegistry
