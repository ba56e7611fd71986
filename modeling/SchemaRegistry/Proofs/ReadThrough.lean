import SchemaRegistry.Proofs.Share

/-!
A cache that is behind, in front of a store that is not.  A schema is found by its version, its text
or its id at any lag as if there were no cache.  Lists of subjects and versions, the latest schema
and levels are those of the cache as soon as it has any.
-/

namespace SchemaRegistry

namespace View

/-- Single schemas of a tenant are the same in both views. -/
structure SamePoints (v w : View) (tenant : String) : Prop where
  text : ∀ subject version, v.text? tenant subject version = w.text? tenant subject version
  find : ∀ subject text, v.find? tenant subject text = w.find? tenant subject text
  textOfId : ∀ id, v.textOfId? tenant id = w.textOfId? tenant id

variable {v v' w w' : View} {tenant : String}

theorem SameFor.samePoints (h : v.SameFor w tenant) : v.SamePoints w tenant :=
  ⟨h.text, h.find, h.textOfId⟩

theorem SamePoints.trans {x : View} (h : v.SamePoints w tenant) (h' : w.SamePoints x tenant) :
    v.SamePoints x tenant where
  text subject version := (h.text subject version).trans (h'.text subject version)
  find subject text := (h.find subject text).trans (h'.find subject text)
  textOfId id := (h.textOfId id).trans (h'.textOfId id)

theorem SameFor.through (h : v.SameFor v' tenant) (h' : w.SameFor w' tenant) :
    (v.through w).SameFor (v'.through w') tenant := by
  constructor
  · intro text
    simp only [View.through, h.id, h'.id]
  · intro id
    simp only [View.through, h.textOfId, h'.textOfId]
  · simp only [View.through, h.subjects, h'.subjects]
  · intro subject
    simp only [View.through, h.versions, h'.versions]
  · intro subject version
    simp only [View.through, h.text, h'.text]
  · intro subject
    simp only [View.through, h.latest, h'.latest]
  · intro subject text
    simp only [View.through, h.find, h'.find]
  · simp only [View.through, h.globalLevel, h'.globalLevel]
  · intro subject
    simp only [View.through, h.subjectLevel, h'.subjectLevel]

theorem orElse_ok {α : Type} (a b : Option α) : orElse (.ok a) (.ok b) = .ok (a.or b) := by
  cases a <;> rfl

theorem orElse_find? {α β : Type} {xs ys : List α} (h : xs <+: ys) (p : α → Bool) (f : α → β) :
    orElse (.ok ((xs.find? p).map f)) (.ok ((ys.find? p).map f)) = .ok ((ys.find? p).map f) := by
  cases hfind : xs.find? p with
  | none => rfl
  | some a => rw [h.find?_eq_some hfind, orElse_ok, Option.or_self]

/-- Of two lists the one in front, unless it is empty. -/
def seen {α : Type} (front back : List α) : List α := if front.isEmpty then back else front

@[simp] theorem seen_nil {α : Type} (back : List α) : seen [] back = back := rfl

@[simp] theorem seen_cons {α : Type} (a : α) (front back : List α) :
    seen (a :: front) back = a :: front := rfl

@[simp] theorem seen_self {α : Type} (xs : List α) : seen xs xs = xs := by cases xs <;> rfl

theorem seen_of_ne_nil {α : Type} {front : List α} (h : front ≠ []) (back : List α) :
    seen front back = front :=
  if_neg (by simpa using h)

theorem orElseList_ok {α : Type} (as bs : List α) :
    orElseList (.ok as) (.ok bs) = .ok (seen as bs) := by
  cases as <;> rfl

theorem or_getLast? {α : Type} (front back : List α) :
    front.getLast?.or back.getLast? = (seen front back).getLast? := by
  cases front with
  | nil => rfl
  | cons a front => rw [List.getLast?_cons, seen_cons, List.getLast?_cons, Option.some_or]

end View

namespace Change

theorem stored_isPrefix {p q : List Change} (h : p <+: q) (tenant : String) :
    stored tenant p <+: stored tenant q :=
  h.filterMap _

theorem storedIn_sublist {cs ds : List Change} (h : cs.Sublist ds) (tenant subject : String) :
    (storedIn tenant subject cs).Sublist (storedIn tenant subject ds) :=
  (h.filterMap _).filter _

theorem storedIn_isPrefix {p q : List Change} (h : p <+: q) (tenant subject : String) :
    storedIn tenant subject p <+: storedIn tenant subject q :=
  (stored_isPrefix h tenant).filter _

end Change

theorem Stored.versions_isPrefix {xs ys : List Stored} (h : xs <+: ys) (n : Nat) :
    versions n xs <+: versions n ys := by
  obtain ⟨more, rfl⟩ := h
  rw [versions_append]
  exact List.prefix_append ..

open Change (stored storedIn)
open View (seen)

namespace Cache

variable {tenant : String} {p q changes : List Change}

theorem textOfId?_of (hids : (stored tenant changes).Pairwise (·.id < ·.id)) (id : Int) :
    (of changes).view.textOfId? tenant id =
      .ok (((stored tenant changes).find? (·.id = id)).map (·.text)) := by
  cases hfind : (stored tenant changes).find? (·.id = id) with
  | some x =>
    have hid : x.id = id := by simpa using List.find?_some hfind
    rw [← hid, textOfId?_replayed hids (List.mem_of_find?_eq_some hfind), Option.map_some]
  | none =>
    have hnone : ((of changes).all tenant).find? (·.id = id) = none := by
      refine List.find?_eq_none.2 fun s hs hid => ?_
      obtain ⟨subject, hs⟩ := (mem_all_iff ..).1 hs
      rw [subject_replayed] at hs
      obtain ⟨x, hx, hsame, -⟩ := Stored.exists_of_mem_versions hs
      exact List.find?_eq_none.1 hfind x (List.mem_filter.1 hx).1 (by rw [hsame]; exact hid)
    simp only [view, hnone, Option.map_none]

/-- A lag does not show when a single schema is asked for. -/
theorem through_samePoints (h : p <+: q) (hids : (stored tenant q).Pairwise (·.id < ·.id)) :
    ((of p).view.through (of q).view).SamePoints (of q).view tenant where
  text subject version := by
    have hprefix := Stored.versions_isPrefix (Change.storedIn_isPrefix h tenant subject) 0
    simp only [View.through, view, subject_replayed]
    exact View.orElse_find? hprefix _ _
  find subject text := by
    have hprefix := Stored.versions_isPrefix (Change.storedIn_isPrefix h tenant subject) 0
    have hfind := View.orElse_find? hprefix (·.text = text) id
    simp only [Option.map_id_fun, id_eq] at hfind
    simp only [View.through, view, subject_replayed, Stored.earliest?_versions]
    exact hfind
  textOfId id := by
    have hprefix := Change.stored_isPrefix h tenant
    simp only [View.through, textOfId?_of hids, textOfId?_of (hids.sublist hprefix.sublist)]
    exact View.orElse_find? hprefix _ _

theorem mem_keys_iff (tenant subject : String) (changes : List Change) :
    subject ∈ ((of changes).tenant tenant).keys ↔
      ∃ x ∈ stored tenant changes, x.subject = subject := by
  have hstored : (∃ x ∈ stored tenant changes, x.subject = subject) ↔
      (of changes).subject tenant subject ≠ [] := by
    rw [subject_replayed, Ne, Stored.versions_eq_nil_iff, storedIn, List.filter_eq_nil_iff]
    simp
  rw [hstored, Table.keys, List.mem_map]
  constructor
  · rintro ⟨e, he, rfl⟩
    rw [subject_of_mem_entries he]
    exact filled_of changes tenant e he
  · intro hne
    cases hget : ((of changes).tenant tenant).get? subject with
    | none => exact absurd (by simp [Cache.subject, hget]) hne
    | some ss => exact ⟨(subject, ss), (Table.mem_entries_iff ..).2 hget, rfl⟩

theorem keys_eq_nil_iff (tenant : String) (changes : List Change) :
    ((of changes).tenant tenant).keys = [] ↔ stored tenant changes = [] := by
  rw [List.eq_nil_iff_forall_not_mem, List.eq_nil_iff_forall_not_mem]
  simp only [mem_keys_iff]
  exact ⟨fun h x hx => h x.subject ⟨x, hx, rfl⟩, fun h _ ⟨x, hx, _⟩ => h x hx⟩

end Cache

/-- A view that answers from the changes in front, as far as they have anything for what is asked,
and else from those in the back. -/
structure View.Shows (v : View) (tenant : String) (front back : List Change) : Prop where
  subjects : ∃ names, v.subjects tenant = .ok names ∧ ∀ subject, subject ∈ names ↔
    ∃ x ∈ seen (stored tenant front) (stored tenant back), x.subject = subject
  versions : ∀ subject, v.versions? tenant subject =
    let xs := seen (storedIn tenant subject front) (storedIn tenant subject back)
    .ok (if xs = [] then none else some (List.range' 1 xs.length))
  latest : ∀ subject, v.latest? tenant subject =
    let xs := seen (storedIn tenant subject front) (storedIn tenant subject back)
    .ok (xs.getLast?.map fun x => ⟨x.subject, x.id, xs.length, x.text⟩)
  globalLevel : v.globalLevel? tenant = .ok (seen (front.filterMap (Change.globalLevel? tenant))
    (back.filterMap (Change.globalLevel? tenant))).getLast?
  subjectLevel : ∀ subject, v.subjectLevel? tenant subject =
    .ok (seen (front.filterMap (Change.subjectLevel? tenant subject))
      (back.filterMap (Change.subjectLevel? tenant subject))).getLast?

namespace View

variable {v w : View} {tenant : String} {front back : List Change}

theorem SameFor.shows (h : v.SameFor w tenant) (hw : w.Shows tenant front back) :
    v.Shows tenant front back where
  subjects := h.subjects ▸ hw.subjects
  versions subject := (h.versions subject).trans (hw.versions subject)
  latest subject := (h.latest subject).trans (hw.latest subject)
  globalLevel := h.globalLevel.trans hw.globalLevel
  subjectLevel subject := (h.subjectLevel subject).trans (hw.subjectLevel subject)

theorem Shows.of_on (h : v.Shows tenant front (Change.on tenant back)) :
    v.Shows tenant front back where
  subjects := by simpa only [Change.stored_on] using h.subjects
  versions := by simpa only [Change.storedIn_on] using h.versions
  latest := by simpa only [Change.storedIn_on] using h.latest
  globalLevel := by simpa only [Change.globalLevels_on] using h.globalLevel
  subjectLevel := by simpa only [Change.subjectLevels_on] using h.subjectLevel

end View

theorem Cache.through_shows {tenant : String} {p q : List Change}
    (hp : (stored tenant p).Pairwise (·.id < ·.id))
    (hq : (stored tenant q).Pairwise (·.id < ·.id)) :
    ((of p).view.through (of q).view).Shows tenant p q := by
  have hfront := reflects_replayed hp
  have hback := reflects_replayed hq
  constructor
  · refine ⟨_, View.orElseList_ok _ _, fun subject => ?_⟩
    cases hstored : stored tenant p with
    | nil => rw [(keys_eq_nil_iff tenant p).2 hstored, View.seen_nil, View.seen_nil, mem_keys_iff]
    | cons x xs =>
      have hkeys : ((of p).tenant tenant).keys ≠ [] := by
        rw [Ne, keys_eq_nil_iff, hstored]
        exact List.cons_ne_nil x xs
      rw [View.seen_of_ne_nil hkeys, View.seen_cons, mem_keys_iff, hstored]
  · intro subject
    simp only [View.through, hfront.versions, hback.versions]
    cases storedIn tenant subject p <;> rfl
  · intro subject
    simp only [View.through, hfront.latest, hback.latest]
    cases storedIn tenant subject p with
    | nil => rfl
    | cons x xs => rw [View.seen_cons, List.getLast?_cons, Option.map_some, View.orElse_some]
  · simp only [View.through, hfront.globalLevel, hback.globalLevel, View.orElse_ok,
      View.or_getLast?]
  · intro subject
    simp only [View.through, hfront.subjectLevel, hback.subjectLevel, View.orElse_ok,
      View.or_getLast?]

end SchemaRegistry
