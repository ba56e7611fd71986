import SchemaRegistry.Proofs.Listing
import SchemaRegistry.Proofs.Row
import SchemaRegistry.Proofs.Scan
import SchemaRegistry.Proofs.View
import SchemaRegistry.Store.Backend

/-!
A database and a cache that have taken the same changes answer every read alike, as long as no name
holds a separator.  The rows of the database are the schemas of the cache, and a scan meets them in
the order in which the cache lists them.
-/

namespace SchemaRegistry

namespace Change

def Fits : Change → Prop
  | schema tenant subject id _ => Key.Plain tenant ∧ Key.Plain subject ∧ Row.Holds id
  | globalLevel tenant _ => Key.Plain tenant
  | subjectLevel tenant subject _ => Key.Plain tenant ∧ Key.Plain subject
  | user _ => True

instance : DecidablePred Fits
  | schema .. => inferInstanceAs (Decidable (_ ∧ _ ∧ _))
  | globalLevel .. => inferInstanceAs (Decidable (Key.Plain _))
  | subjectLevel .. => inferInstanceAs (Decidable (_ ∧ _))
  | user _ => inferInstanceAs (Decidable True)

/-- Changes that a database can keep: there are as many versions of a subject as 32 bits count. -/
structure Storable (changes : List Change) : Prop where
  fits : ∀ change ∈ changes, change.Fits
  few : ∀ tenant subject, (storedIn tenant subject changes).length < 0x100000000

theorem Storable.left {cs ds : List Change} (h : Storable (cs ++ ds)) : Storable cs where
  fits change hchange := h.fits change (List.mem_append_left _ hchange)
  few tenant subject := by
    have := h.few tenant subject
    rw [storedIn_append, List.length_append] at this
    omega

theorem length_storedIn_le (tenant subject : String) (changes : List Change) :
    (storedIn tenant subject changes).length ≤ changes.length :=
  Nat.le_trans (List.length_filter_le ..) (List.length_filterMap_le ..)

theorem length_storedIn_lt {changes : List Change} {n : Nat} (h : changes.length < n)
    (tenant subject : String) : (storedIn tenant subject changes).length < n :=
  Nat.lt_of_le_of_lt (length_storedIn_le ..) h

theorem Storable.of_length {changes : List Change} (hfits : ∀ change ∈ changes, change.Fits)
    (h : changes.length < 0x100000000) : Storable changes where
  fits := hfits
  few := length_storedIn_lt h

theorem mem_stored_iff {tenant : String} {changes : List Change} {x : Stored} :
    x ∈ stored tenant changes ↔ schema tenant x.subject x.id x.text ∈ changes := by
  rw [stored, List.mem_filterMap]
  constructor
  · rintro ⟨change, hchange, hx⟩
    cases change with
    | schema t s id text =>
      obtain ⟨rfl, hsome⟩ := Option.ite_none_right_eq_some.1 hx
      cases hsome
      exact hchange
    | globalLevel => cases hx
    | subjectLevel => cases hx
    | user => cases hx
  · exact fun h => ⟨_, h, if_pos rfl⟩

theorem mem_storedIn {tenant subject : String} {id : Int} {text : String} {changes : List Change}
    (h : schema tenant subject id text ∈ changes) :
    ⟨subject, id, text⟩ ∈ storedIn tenant subject changes :=
  List.mem_filter.2 ⟨mem_stored_iff.2 h, by simp⟩

theorem schema_of_mem_storedIn {tenant subject : String} {changes : List Change} {x : Stored}
    (h : x ∈ storedIn tenant subject changes) : schema tenant subject x.id x.text ∈ changes := by
  have hchange := mem_stored_iff.1 (List.mem_filter.1 h).1
  rwa [subject_of_mem_storedIn h] at hchange

end Change

open Change (Storable storedIn)
open Cache (of ListedBefore)

theorem Stored.find?_version_of_mem {xs : List Stored} {s : Schema} (h : s ∈ versions 0 xs) :
    (versions 0 xs).find? (·.version = s.version) = some s := by
  obtain ⟨k, x, hx, rfl⟩ := mem_versions_iff.1 h
  rw [find?_version, getElem?_versions, hx]
  rfl

namespace Cache

variable {changes : List Change} {tenant subject : String}

theorem nextVersion_of (tenant subject : String) (changes : List Change) :
    (of changes).nextVersion tenant subject = (storedIn tenant subject changes).length + 1 := by
  rw [nextVersion, subject_replayed, Stored.greatest_versions]

theorem fits_of_mem (h : Storable changes) {s : Schema}
    (hs : s ∈ (of changes).subject tenant subject) :
    Key.Plain tenant ∧ Key.Plain subject ∧ Row.Holds s.id := by
  rw [subject_replayed] at hs
  obtain ⟨k, x, hx, rfl⟩ := Stored.mem_versions_iff.1 hs
  exact h.fits _ (Change.schema_of_mem_storedIn (List.mem_of_getElem? hx))

theorem version_of_mem {s : Schema} (hs : s ∈ (of changes).subject tenant subject) :
    s.version ≤ (storedIn tenant subject changes).length := by
  rw [subject_replayed] at hs
  have := Stored.version_le hs
  rwa [Nat.zero_add] at this

end Cache

theorem mapM_map_ok {α β ε : Type} {f : β → Except ε α} {g : α → β} {xs : List α}
    (h : ∀ x ∈ xs, f (g x) = .ok x) : (xs.map g).mapM f = .ok xs := by
  induction xs with
  | nil => rfl
  | cons x xs ih =>
    obtain ⟨hx, hxs⟩ := List.forall_mem_cons.1 h
    simp only [List.map_cons, List.mapM_cons, hx, ih hxs, bind, Except.bind]
    rfl

namespace Database

/-- A database that has the rows for what is in a cache, and no others. -/
structure Mirrors (d : Database) (c : Cache) : Prop where
  schemas : ∀ key row, d.schemas.get? key = some row ↔
    ∃ tenant subject, ∃ s ∈ c.subject tenant subject,
    key = Key.schema tenant subject s.version ∧ row = Row.encode ⟨s.id, s.text⟩
  globalLevel : ∀ tenant, d.globalLevels.get? tenant = (c.globalLevels.get? tenant).map Level.name
  subjectLevel : ∀ tenant subject, Key.Plain tenant →
    d.subjectLevels.get? (Key.subjectLevel tenant subject) =
      ((c.levels tenant).get? subject).map Level.name

section

variable {d : Database} {changes : List Change} {tenant subject : String}

theorem mirrors_empty : (∅ : Database).Mirrors (of []) where
  schemas _ _ := ⟨nofun, fun ⟨_, _, _, hs, _⟩ => absurd hs List.not_mem_nil⟩
  globalLevel _ := rfl
  subjectLevel _ _ _ := rfl

theorem Mirrors.scan (h : d.Mirrors (of changes)) (hfit : Storable changes) (tenant : String)
    {start : String} {xs : List Schema} (hsorted : xs.Pairwise ListedBefore)
    (hxs : ∀ s ∈ xs, s ∈ (of changes).subject tenant s.subject)
    (hseen : ∀ t u, ∀ s ∈ (of changes).subject t u,
      startsWith start (Key.schema t u s.version) ↔ t = tenant ∧ s ∈ xs) :
    d.scan start = .ok xs := by
  have hfits {t u : String} {s : Schema} (hs : s ∈ (of changes).subject t u) :
      Key.Plain t ∧ Key.Plain u ∧ Row.Holds s.id ∧ s.version < 0x100000000 := by
    have := hfit.few t u
    have := Cache.version_of_mem hs
    obtain ⟨ht, hu, hid⟩ := Cache.fits_of_mem hfit hs
    exact ⟨ht, hu, hid, by omega⟩
  have hentries : (d.schemas.entries.filter fun e => startsWith start e.1) =
      xs.map fun s => (Key.schema tenant s.subject s.version, Row.encode ⟨s.id, s.text⟩) := by
    refine Table.entries_eq (d.schemas.ordered.filter _) ?_ fun e => ?_
    · refine List.pairwise_map.2 (hsorted.imp_of_mem fun ha hb hlt => ?_)
      obtain ⟨ht, ha, -, hva⟩ := hfits (hxs _ ha)
      obtain ⟨-, hb, -, hvb⟩ := hfits (hxs _ hb)
      exact (Key.schema_lt_iff ht ht ha hb (by omega) (by omega)).2 (.inr ⟨rfl, hlt⟩)
    · rw [List.mem_filter, Table.mem_entries_iff, h.schemas, List.mem_map]
      constructor
      · rintro ⟨⟨t, u, s, hs, hkey, hrow⟩, hstart⟩
        rw [hkey, hseen t u s hs] at hstart
        obtain ⟨rfl, hmem⟩ := hstart
        rw [← Cache.subject_of_mem_subject hs] at hkey
        exact ⟨s, hmem, Prod.ext hkey.symm hrow.symm⟩
      · rintro ⟨s, hmem, rfl⟩
        exact ⟨⟨tenant, s.subject, s, hxs s hmem, rfl, rfl⟩,
          (hseen _ _ s (hxs s hmem)).2 ⟨rfl, hmem⟩⟩
  rw [scan_eq, hentries]
  refine mapM_map_ok fun s hs => ?_
  obtain ⟨ht, hu, hid, hv⟩ := hfits (hxs s hs)
  exact decodeRow_encode (r := ⟨s.id, s.text⟩) ht hu hv hid

theorem Mirrors.tenant_eq (h : d.Mirrors (of changes)) (hfit : Storable changes)
    (ht : Key.Plain tenant) : d.tenant tenant = .ok ((of changes).all tenant) := by
  refine h.scan hfit tenant (Cache.pairwise_all tenant changes) (fun s hs => ?_) fun t u s hs => ?_
  · obtain ⟨subject, hs⟩ := (Cache.mem_all_iff ..).1 hs
    rwa [Cache.subject_of_mem_subject hs]
  · obtain ⟨htplain, -⟩ := Cache.fits_of_mem hfit hs
    rw [startsWith_iff, Key.tenantPrefix_isPrefix_schema ht htplain]
    constructor
    · rintro rfl
      exact ⟨rfl, (Cache.mem_all_iff ..).2 ⟨u, hs⟩⟩
    · exact fun h => h.1.symm

theorem Mirrors.subject_eq (h : d.Mirrors (of changes)) (hfit : Storable changes)
    (ht : Key.Plain tenant) (subject : String) :
    d.subject tenant subject = .ok ((of changes).subject tenant subject) := by
  refine h.scan hfit tenant (Cache.pairwise_subject tenant subject changes) (fun s hs => ?_)
    fun t u s hs => ?_
  · rwa [Cache.subject_of_mem_subject hs]
  · obtain ⟨htplain, huplain, -⟩ := Cache.fits_of_mem hfit hs
    rw [startsWith_iff, Key.subjectPrefix_isPrefix_schema ht htplain huplain]
    constructor
    · rintro ⟨rfl, rfl⟩
      exact ⟨rfl, hs⟩
    · rintro ⟨rfl, hmem⟩
      exact ⟨rfl, (Cache.subject_of_mem_subject hmem).symm.trans (Cache.subject_of_mem_subject hs)⟩

theorem Mirrors.text_eq (h : d.Mirrors (of changes)) (hfit : Storable changes)
    (ht : Key.Plain tenant) (subject : String) (version : Nat) :
    d.view.text? tenant subject version = (of changes).view.text? tenant subject version := by
  simp only [view, Cache.view]
  cases hget : d.schemas.get? (Key.schema tenant subject version) with
  | none =>
    have hnone : ((of changes).subject tenant subject).find? (·.version = version) = none := by
      refine List.find?_eq_none.2 fun s hs hversion => ?_
      rw [decide_eq_true_eq] at hversion
      have hrow := (h.schemas _ _).2 ⟨tenant, subject, s, hs, rfl, rfl⟩
      rw [hversion, hget] at hrow
      cases hrow
    simp only [hnone, Option.map_none]
  | some row =>
    obtain ⟨t, u, s, hs, hkey, rfl⟩ := (h.schemas _ _).1 hget
    obtain ⟨htplain, huplain, hid⟩ := Cache.fits_of_mem hfit hs
    obtain ⟨rfl, rfl, rfl⟩ := Key.schema_inj ht htplain huplain hkey
    have hdecode := Row.decode_encode (r := ⟨s.id, s.text⟩) hid
    rw [Cache.subject_replayed] at hs ⊢
    simp only [hdecode, Stored.find?_version_of_mem hs, Option.map_some]

theorem levelAt_eq {levels : Table String} {key : String} {level? : Option Level}
    (h : levels.get? key = level?.map Level.name) : levelAt levels key = .ok level? := by
  cases level? with
  | none => simp only [levelAt, h, Option.map_none]
  | some level => simp only [levelAt, h, Option.map_some, Level.ofName?_name]

theorem Mirrors.sameFor (h : d.Mirrors (of changes)) (hfit : Storable changes)
    (ht : Key.Plain tenant) : d.view.SameFor (of changes).view tenant := by
  have htenant := h.tenant_eq hfit ht
  have hsubject := h.subject_eq hfit ht
  constructor
  · intro text
    simp only [view, htenant]
    rfl
  · intro id
    simp only [view, htenant]
    rfl
  · simp only [view, htenant, Cache.view, ← Cache.dedup_subjects tenant changes]
    rfl
  · intro subject
    simp only [view, hsubject]
    rfl
  · exact h.text_eq hfit ht
  · intro subject
    simp only [view, hsubject]
    rfl
  · intro subject text
    simp only [view, hsubject, Cache.view, Cache.subject_replayed, Stored.earliest?_versions]
    rfl
  · exact levelAt_eq (h.globalLevel tenant)
  · exact fun subject => levelAt_eq (h.subjectLevel tenant subject ht)

theorem Mirrors.isEmpty_eq (h : d.Mirrors (of changes)) :
    d.view.isEmpty = (of changes).view.isEmpty := by
  rw [Bool.eq_iff_iff]
  refine Iff.trans ?_ (Cache.isEmpty_iff _).symm
  simp only [view, Table.isEmpty, List.isEmpty_iff, List.eq_nil_iff_forall_not_mem,
    Table.mem_entries_iff, h.schemas]
  constructor
  · exact fun hnone tenant subject s hs => hnone (_, _) ⟨tenant, subject, s, hs, rfl, rfl⟩
  · rintro hnone e ⟨tenant, subject, s, hs, -⟩
    exact hnone tenant subject s hs

theorem Mirrors.nextVersion_eq (h : d.Mirrors (of changes)) (hfit : Storable changes)
    (ht : Key.Plain tenant) (subject : String) :
    d.nextVersion tenant subject = .ok ((of changes).nextVersion tenant subject) := by
  rw [nextVersion, h.subject_eq hfit ht]
  rfl

theorem row_addSchema_iff (c : Cache) (t u : String) (id : Int) (text key : String) (row : Bytes) :
    (∃ tenant subject, ∃ s ∈ (c.addSchema t u id text).subject tenant subject,
      key = Key.schema tenant subject s.version ∧ row = Row.encode ⟨s.id, s.text⟩) ↔
    (key = Key.schema t u (c.nextVersion t u) ∧ row = Row.encode ⟨id, text⟩) ∨
    ∃ tenant subject, ∃ s ∈ c.subject tenant subject,
      key = Key.schema tenant subject s.version ∧ row = Row.encode ⟨s.id, s.text⟩ := by
  constructor
  · rintro ⟨tenant, subject, s, hs, hrow⟩
    rw [Cache.subject_addSchema] at hs
    split at hs
    · next hsame =>
      obtain ⟨rfl, rfl⟩ := hsame
      rcases List.mem_append.1 hs with hs | hs
      · exact .inr ⟨_, _, s, hs, hrow⟩
      · cases List.mem_singleton.1 hs
        exact .inl hrow
    · exact .inr ⟨tenant, subject, s, hs, hrow⟩
  · rintro (hrow | ⟨tenant, subject, s, hs, hrow⟩)
    · refine ⟨t, u, ⟨u, id, c.nextVersion t u, text⟩, ?_, hrow⟩
      rw [Cache.subject_addSchema, if_pos ⟨rfl, rfl⟩]
      exact List.mem_append_right _ (List.mem_singleton.2 rfl)
    · refine ⟨tenant, subject, s, ?_, hrow⟩
      rw [Cache.subject_addSchema]
      split
      · exact List.mem_append_left _ hs
      · exact hs

theorem schema_ne_next (hfit : Storable changes) {t u : String} (ht : Key.Plain t) {s : Schema}
    (hs : s ∈ (of changes).subject tenant subject) :
    Key.schema t u ((of changes).nextVersion t u) ≠ Key.schema tenant subject s.version := by
  intro hkey
  obtain ⟨htenant, hsubject, -⟩ := Cache.fits_of_mem hfit hs
  obtain ⟨rfl, rfl, hversion⟩ := Key.schema_inj ht htenant hsubject hkey
  have := Cache.version_of_mem hs
  rw [Cache.nextVersion_of] at hversion
  omega

theorem Mirrors.apply (h : d.Mirrors (of changes)) {change : Change}
    (hfit : Storable (changes ++ [change])) :
    ∃ d', d.apply change = .ok d' ∧ d'.Mirrors (of (changes ++ [change])) := by
  have hfits : change.Fits := hfit.fits change (by simp)
  rw [Cache.of_append]
  cases change with
  | schema t u id text =>
    obtain ⟨ht, -, -⟩ := hfits
    have hversion := h.nextVersion_eq hfit.left ht u
    refine ⟨_, by simp only [Database.apply, addSchema, hversion, bind, Except.bind]; rfl, ?_,
      ?_, ?_⟩
    · intro key row
      rw [show [Change.schema t u id text].foldl Cache.apply (of changes) =
        (of changes).addSchema t u id text from rfl, row_addSchema_iff, Table.get?_insert,
        ← h.schemas]
      split
      · next hkey =>
        -- the row under the new key is the new one: no other is there
        have hfresh : ¬ d.schemas.get? key = some row := by
          rw [h.schemas, hkey]
          rintro ⟨tenant, subject, s, hs, heq, -⟩
          exact schema_ne_next hfit.left ht hs heq
        refine ⟨fun hrow => .inl ⟨hkey, (Option.some.inj hrow).symm⟩, ?_⟩
        rintro (⟨-, rfl⟩ | hold)
        · rfl
        · exact absurd hold hfresh
      · next hkey => simp [hkey]
    · exact h.globalLevel
    · exact h.subjectLevel
  | globalLevel t level =>
    refine ⟨_, rfl, h.schemas, fun tenant => ?_, h.subjectLevel⟩
    simp only [setGlobalLevel, List.foldl_cons, List.foldl_nil, Cache.apply, Cache.setGlobalLevel,
      Table.get?_insert, h.globalLevel]
    split <;> rfl
  | subjectLevel t u level =>
    refine ⟨_, rfl, h.schemas, h.globalLevel, fun tenant subject htenant => ?_⟩
    have hkey : Key.subjectLevel tenant subject = Key.subjectLevel t u ↔ tenant = t ∧ subject = u :=
      ⟨Key.subjectLevel_inj htenant hfits.1, by rintro ⟨rfl, rfl⟩; rfl⟩
    simp only [setSubjectLevel, List.foldl_cons, List.foldl_nil, Cache.apply,
      Cache.levels_setSubjectLevel, Table.get?_insert, hkey, h.subjectLevel tenant subject htenant]
    split <;> rfl
  | user => exact ⟨d, rfl, h.schemas, h.globalLevel, h.subjectLevel⟩

end

end Database

end SchemaRegistry
