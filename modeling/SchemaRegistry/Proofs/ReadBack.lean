import SchemaRegistry.Proofs.Interchange
import SchemaRegistry.Proofs.JsonString
import SchemaRegistry.Proofs.ReadThrough

/-!
What a database can read of what it wrote.  Everything, as long as schemas are stored under names
without a separator: then each version is the next number, and no read fails, not even one for other
names.  A schema that is stored under any other name cannot be listed again.
-/

namespace SchemaRegistry

structure View.Answers (v : View) (tenant : String) : Prop where
  id : ∀ text, ∃ a, v.id? tenant text = .ok a
  textOfId : ∀ id, ∃ a, v.textOfId? tenant id = .ok a
  subjects : ∃ a, v.subjects tenant = .ok a
  versions : ∀ subject, ∃ a, v.versions? tenant subject = .ok a
  text : ∀ subject version, ∃ a, v.text? tenant subject version = .ok a
  latest : ∀ subject, ∃ a, v.latest? tenant subject = .ok a
  find : ∀ subject text, ∃ a, v.find? tenant subject text = .ok a
  globalLevel : ∃ a, v.globalLevel? tenant = .ok a
  subjectLevel : ∀ subject, ∃ a, v.subjectLevel? tenant subject = .ok a

namespace Change

def Legible : Change → Prop
  | schema tenant subject _ _ => Key.Plain tenant ∧ Key.Plain subject
  | _ => True

instance : DecidablePred Legible
  | .schema .. => inferInstanceAs (Decidable (_ ∧ _))
  | .globalLevel .. => inferInstanceAs (Decidable True)
  | .subjectLevel .. => inferInstanceAs (Decidable True)
  | .user _ => inferInstanceAs (Decidable True)

def Holds : Change → Prop
  | schema _ _ id _ => Row.Holds id
  | _ => True

instance : DecidablePred Holds
  | .schema _ _ id _ => inferInstanceAs (Decidable (Row.Holds id))
  | .globalLevel .. => inferInstanceAs (Decidable True)
  | .subjectLevel .. => inferInstanceAs (Decidable True)
  | .user _ => inferInstanceAs (Decidable True)

def number (before : List Change) : Change → Option Nat
  | schema tenant subject _ _ => some ((storedIn tenant subject before).length + 1)
  | _ => none

def isSchema : Change → Bool
  | schema .. => true
  | _ => false

def schemas (changes : List Change) : List Change := changes.filter isSchema

theorem storedIn_schemas (tenant subject : String) (changes : List Change) :
    storedIn tenant subject (schemas changes) = storedIn tenant subject changes := by
  have hstored : stored tenant (schemas changes) = stored tenant changes := by
    rw [stored, schemas, List.filterMap_filter]
    congr 1
    funext change
    cases change <;> rfl
  rw [storedIn, hstored, storedIn]

theorem schemas_append (cs ds : List Change) : schemas (cs ++ ds) = schemas cs ++ schemas ds :=
  List.filter_append ..

theorem schemas_concat {change : Change} (h : change.isSchema = false) (changes : List Change) :
    schemas (changes ++ [change]) = schemas changes := by
  rw [schemas_append, schemas, schemas, List.filter_singleton, h, cond_false, List.append_nil]

theorem storable_schemas {changes : List Change} (hnames : ∀ change ∈ changes, change.Legible)
    (hids : ∀ change ∈ changes, change.Holds)
    (hfew : ∀ tenant subject, (storedIn tenant subject changes).length < 0x100000000) :
    Storable (schemas changes) where
  fits change hchange := by
    obtain ⟨hmem, hschema⟩ := List.mem_filter.1 hchange
    cases change with
    | schema => exact ⟨(hnames _ hmem).1, (hnames _ hmem).2, hids _ hmem⟩
    | globalLevel => cases hschema
    | subjectLevel => cases hschema
    | user => cases hschema
  few tenant subject := by
    rw [storedIn_schemas]
    exact hfew tenant subject

end Change

open Change (Storable stored storedIn)
open Cache (of)
open Json (bind_eq_ok)

theorem mapM_eq_ok_iff {α β ε : Type} {f : α → Except ε β} {xs : List α} :
    (∃ ys, xs.mapM f = .ok ys) ↔ ∀ x ∈ xs, ∃ y, f x = .ok y := by
  induction xs with
  | nil => exact ⟨fun _ => nofun, fun _ => ⟨[], rfl⟩⟩
  | cons x xs ih =>
    rw [List.forall_mem_cons, ← ih, List.mapM_cons]
    cases f x with
    | error e => simp [bind, Except.bind]
    | ok y =>
      cases xs.mapM f with
      | error e => simp [bind, Except.bind]
      | ok ys => simp [bind, Except.bind, pure, Except.pure]

namespace Database

def rows (d : Database) : Database := ⟨d.schemas, ∅, ∅⟩

theorem scan_eq_ok_iff (d : Database) (start : String) :
    (∃ xs, d.scan start = .ok xs) ↔
      ∀ key row, d.schemas.get? key = some row → startsWith start key →
        ∃ s, decodeRow key row = .ok s := by
  rw [scan_eq, mapM_eq_ok_iff]
  simp only [List.mem_filter, Table.mem_entries_iff, Prod.forall, and_imp]

def Named (levels : Table String) : Prop := ∀ key name, levels.get? key = some name →
  ∃ level : Level, level.name = name

theorem Named.insert {levels : Table String} (h : Named levels) (key : String) (level : Level) :
    Named (levels.insert key level.name) := by
  intro key' name hget
  rw [Table.get?_insert] at hget
  split at hget
  · exact ⟨level, Option.some.inj hget⟩
  · exact h key' name hget

theorem Named.levelAt {levels : Table String} (h : Named levels) (key : String) :
    ∃ level?, levelAt levels key = .ok level? := by
  have hlevel : ∃ level? : Option Level, levels.get? key = level?.map Level.name := by
    cases hget : levels.get? key with
    | none => exact ⟨none, rfl⟩
    | some name =>
      obtain ⟨level, rfl⟩ := h key name hget
      exact ⟨some level, rfl⟩
  obtain ⟨level?, hget⟩ := hlevel
  exact ⟨level?, levelAt_eq hget⟩

structure Keeps (d : Database) (changes : List Change) : Prop where
  rows : d.rows.Mirrors (of (Change.schemas changes))
  globalLevels : Named d.globalLevels
  subjectLevels : Named d.subjectLevels

theorem keeps_empty : (∅ : Database).Keeps [] := ⟨mirrors_empty, nofun, nofun⟩

section

variable {d : Database} {changes : List Change} {tenant subject : String}

/-- A subject of a tenant that no key can belong to has no versions. -/
theorem Keeps.subject_eq (h : d.Keeps changes) (hfit : Storable (Change.schemas changes))
    (tenant subject : String) :
    d.subject tenant subject = .ok (Stored.versions 0 (storedIn tenant subject changes)) := by
  rw [← Change.storedIn_schemas, ← Cache.subject_replayed]
  by_cases ht : Key.Plain tenant
  · exact h.rows.subject_eq hfit ht subject
  · have hnone : (of (Change.schemas changes)).subject tenant subject = [] :=
      List.eq_nil_iff_forall_not_mem.2 fun s hs => ht (Cache.fits_of_mem hfit hs).1
    rw [hnone]
    refine h.rows.scan hfit tenant .nil nofun fun t u s hs => ?_
    obtain ⟨htplain, huplain, -⟩ := Cache.fits_of_mem hfit hs
    have hunseen : ¬ startsWith (Key.subjectPrefix tenant subject) (Key.schema t u s.version) :=
      fun hstart => ht (Key.plain_of_isPrefix htplain huplain (startsWith_iff.1 hstart)).1
    simp [hunseen]

theorem Keeps.nextVersion_eq (h : d.Keeps changes) (hfit : Storable (Change.schemas changes))
    (tenant subject : String) :
    d.nextVersion tenant subject = .ok ((storedIn tenant subject changes).length + 1) := by
  rw [nextVersion, h.subject_eq hfit]
  simp only [bind, Except.bind, Stored.greatest_versions]
  rfl

theorem Keeps.apply (h : d.Keeps changes) {change : Change}
    (hfit : Storable (Change.schemas (changes ++ [change]))) :
    ∃ d', d.apply change = .ok d' ∧ d'.Keeps (changes ++ [change]) := by
  cases change with
  | schema t u id text =>
    rw [Change.schemas_append] at hfit
    have hversion := h.nextVersion_eq hfit.left t u
    obtain ⟨d', happly, hd'⟩ := h.rows.apply hfit
    let next := d.schemas.insert (Key.schema t u ((storedIn t u changes).length + 1))
      (Row.encode ⟨id, text⟩)
    have hnext : d.apply (.schema t u id text) = .ok { d with schemas := next } := by
      simp only [Database.apply, addSchema, hversion, bind, Except.bind]
      rfl
    have hrows : d.rows.apply (.schema t u id text) =
        .ok (Database.rows { d with schemas := next }) := by
      have hversion : d.rows.nextVersion t u = .ok ((storedIn t u changes).length + 1) := hversion
      simp only [Database.apply, addSchema, hversion, bind, Except.bind]
      rfl
    cases happly.symm.trans hrows
    refine ⟨_, hnext, ?_, h.globalLevels, h.subjectLevels⟩
    rw [Change.schemas_append]
    exact hd'
  | globalLevel t level =>
    refine ⟨_, rfl, ?_, h.globalLevels.insert t level, h.subjectLevels⟩
    rw [Change.schemas_concat rfl]
    exact h.rows
  | subjectLevel t u level =>
    refine ⟨_, rfl, ?_, h.globalLevels, h.subjectLevels.insert _ level⟩
    rw [Change.schemas_concat rfl]
    exact h.rows
  | user user =>
    refine ⟨d, rfl, ?_, h.globalLevels, h.subjectLevels⟩
    rw [Change.schemas_concat rfl]
    exact h.rows

theorem Keeps.decodeRow_ok (h : d.Keeps changes) (hfit : Storable (Change.schemas changes))
    {key : String} {row : Bytes} (hrow : d.schemas.get? key = some row) :
    ∃ s, decodeRow key row = .ok s ∧ Row.decode row = .ok ⟨s.id, s.text⟩ := by
  obtain ⟨t, u, s, hs, rfl, rfl⟩ := (h.rows.schemas key row).1 hrow
  obtain ⟨ht, hu, hid⟩ := Cache.fits_of_mem hfit hs
  have hversion := Nat.lt_of_le_of_lt (Cache.version_of_mem hs) (hfit.few t u)
  exact ⟨_, decodeRow_encode (r := ⟨s.id, s.text⟩) ht hu hversion hid, Row.decode_encode hid⟩

theorem Keeps.scan_ok (h : d.Keeps changes) (hfit : Storable (Change.schemas changes))
    (start : String) :
    ∃ xs, d.scan start = .ok xs :=
  (scan_eq_ok_iff d start).2 fun _ _ hrow _ =>
    have ⟨s, hs, _⟩ := h.decodeRow_ok hfit hrow
    ⟨s, hs⟩

theorem Keeps.answers (h : d.Keeps changes) (hfit : Storable (Change.schemas changes))
    (tenant : String) : d.view.Answers tenant := by
  obtain ⟨xs, hxs⟩ : ∃ xs, d.tenant tenant = .ok xs := h.scan_ok hfit _
  have hsubject := h.subject_eq hfit tenant
  constructor
  · exact fun text => ⟨_, by simp only [view, hxs, bind, Except.bind]; rfl⟩
  · exact fun id => ⟨_, by simp only [view, hxs, bind, Except.bind]; rfl⟩
  · exact ⟨_, by simp only [view, hxs, bind, Except.bind]; rfl⟩
  · exact fun subject => ⟨_, by simp only [view, hsubject, bind, Except.bind]; rfl⟩
  · intro subject version
    simp only [view]
    cases hget : d.schemas.get? (Key.schema tenant subject version) with
    | none => exact ⟨none, rfl⟩
    | some row =>
      obtain ⟨s, -, hdecode⟩ := h.decodeRow_ok hfit hget
      exact ⟨some s.text, by simp only [hdecode]⟩
  · exact fun subject => ⟨_, by simp only [view, hsubject, bind, Except.bind]; rfl⟩
  · exact fun subject text => ⟨_, by simp only [view, hsubject, bind, Except.bind]; rfl⟩
  · exact h.globalLevels.levelAt _
  · exact fun subject => h.subjectLevels.levelAt _

/-- A database that lists what changes have stored, and fails at no read.  A tenant with a separator
in its name has stored nothing then, but may be given what is another tenant's. -/
structure ReadsBack (d : Database) (changes : List Change) : Prop where
  versions : ∀ tenant subject, d.view.versions? tenant subject =
    .ok (if storedIn tenant subject changes = [] then none
      else some (List.range' 1 (storedIn tenant subject changes).length))
  subjects : ∀ tenant, Key.Plain tenant → ∃ names, d.view.subjects tenant = .ok names ∧
    names.Nodup ∧ ∀ subject, subject ∈ names ↔ storedIn tenant subject changes ≠ []
  answers : ∀ tenant, d.view.Answers tenant

theorem Keeps.readsBack (h : d.Keeps changes) (hfit : Storable (Change.schemas changes)) :
    d.ReadsBack changes where
  versions tenant subject := by
    simp only [view, h.subject_eq hfit, bind, Except.bind, Stored.map_version_versions,
      Nat.zero_add]
    cases storedIn tenant subject changes <;> rfl
  subjects tenant ht := by
    have hsubjects : d.view.subjects tenant =
        .ok ((of (Change.schemas changes)).tenant tenant).keys :=
      (h.rows.sameFor hfit ht).subjects
    refine ⟨_, hsubjects, ?_, fun subject => ?_⟩
    · exact List.pairwise_map.2 (((of (Change.schemas changes)).tenant tenant).ordered.imp KeyLt.ne)
    · rw [Cache.mem_keys_iff, ← Change.storedIn_schemas, storedIn, Ne, List.filter_eq_nil_iff]
      simp
  answers := h.answers hfit

def Lists (d : Database) (tenant subject : String) : Prop :=
  ∃ version row, d.schemas.get? (Key.schema tenant subject version) = some row

theorem lists_of_apply {d' : Database} {change : Change} (happly : d.apply change = .ok d')
    (h : d.Lists tenant subject ∨ ∃ id text, change = .schema tenant subject id text) :
    d'.Lists tenant subject := by
  cases change with
  | schema t u id text =>
    obtain ⟨⟨version, next⟩, hadd, happly⟩ := bind_eq_ok.1 happly
    obtain ⟨version', -, hnext⟩ := bind_eq_ok.1 hadd
    cases hnext
    cases happly
    rcases h with ⟨old, row, hrow⟩ | ⟨_, _, hsame⟩
    · refine ⟨old, ?_⟩
      rw [Table.get?_insert]
      split
      · exact ⟨_, rfl⟩
      · exact ⟨row, hrow⟩
    · cases hsame
      exact ⟨version, _, Table.get?_insert_self ..⟩
  | globalLevel t level =>
    cases happly
    exact h.resolve_right nofun
  | subjectLevel t u level =>
    cases happly
    exact h.resolve_right nofun
  | user user =>
    cases happly
    exact h.resolve_right nofun

theorem Lists.plain (h : d.Lists tenant subject) {versions : Option (List Nat)}
    (hread : d.view.versions? tenant subject = .ok versions) :
    Key.Plain tenant ∧ Key.Plain subject := by
  obtain ⟨version, row, hrow⟩ := h
  obtain ⟨xs, hscan, -⟩ := bind_eq_ok.1 hread
  have hstart : startsWith (Key.subjectPrefix tenant subject) (Key.schema tenant subject version) :=
    startsWith_iff.2 (utf8_append .. ▸ List.prefix_append ..)
  obtain ⟨s, hs⟩ := (scan_eq_ok_iff d _).1 ⟨xs, hscan⟩ _ row hrow hstart
  cases hparse : Key.parse? (Key.schema tenant subject version) with
  | none => simp only [decodeRow, hparse] at hs; cases hs
  | some x => exact Key.plain_of_parse? hparse

end

end Database

namespace Backend

open Database (ReadsBack)

variable {d : Database} {changes : List Change}

theorem make_keeps (h : d.Keeps changes) {change : Change}
    (hfit : Storable (Change.schemas (changes ++ [change]))) :
    ∃ d', (database d).make change = .ok (change.number changes, .database d') ∧
      d'.Keeps (changes ++ [change]) := by
  obtain ⟨d', happly, hd'⟩ := h.apply hfit
  have hversion : (database d).versionFor change = .ok (change.number changes) := by
    cases change with
    | schema t u id text =>
      rw [Change.schemas_append] at hfit
      simp only [versionFor, nextVersion, h.nextVersion_eq hfit.left, bind, Except.bind]
      rfl
    | globalLevel => rfl
    | subjectLevel => rfl
    | user => rfl
  refine ⟨d', ?_, hd'⟩
  simp only [make, hversion, apply, happly, bind, Except.bind]
  rfl

theorem makeAll_keeps (h : d.Keeps changes) {more : List Change}
    (hfit : Storable (Change.schemas (changes ++ more))) :
    ∃ d', (database d).makeAll more =
        .ok (more.mapIdx fun i change => change.number (changes ++ more.take i), .database d') ∧
      d'.Keeps (changes ++ more) := by
  induction more generalizing d changes with
  | nil =>
    rw [List.append_nil]
    exact ⟨d, rfl, h⟩
  | cons change more ih =>
    rw [List.append_cons] at hfit ⊢
    have hleft : Storable (Change.schemas (changes ++ [change])) := by
      rw [Change.schemas_append] at hfit
      exact hfit.left
    obtain ⟨d₁, hmake, h₁⟩ := make_keeps h hleft
    obtain ⟨d₂, hmore, h₂⟩ := ih h₁ hfit
    refine ⟨d₂, ?_, h₂⟩
    simp only [makeAll, hmake, hmore, bind, Except.bind, pure, Except.pure, List.mapIdx_cons,
      List.take_zero, List.append_nil, List.take_succ_cons, List.append_assoc,
      List.singleton_append]

theorem lists_of_makeAll {d' : Database} {versions : List (Option Nat)} {tenant subject : String}
    (hrun : (database d).makeAll changes = .ok (versions, .database d'))
    (h : d.Lists tenant subject ∨ ∃ change ∈ changes, ∃ id text,
      change = .schema tenant subject id text) :
    d'.Lists tenant subject := by
  induction changes generalizing d versions with
  | nil =>
    cases hrun
    exact h.resolve_right nofun
  | cons change changes ih =>
    obtain ⟨⟨_, b⟩, hmake, hrest⟩ := bind_eq_ok.1 hrun
    obtain ⟨⟨_, b'⟩, hmore, hlast⟩ := bind_eq_ok.1 hrest
    obtain ⟨_, -, hmake⟩ := bind_eq_ok.1 hmake
    obtain ⟨_, happly, hmake⟩ := bind_eq_ok.1 hmake
    obtain ⟨d₁, hfirst, hnext⟩ := bind_eq_ok.1 happly
    cases hnext
    cases hmake
    cases hlast
    rw [List.exists_mem_cons_iff, ← or_assoc] at h
    exact ih hmore (h.imp_left (Database.lists_of_apply hfirst))

/-- A new database takes any changes and reads everything back, exactly if every schema is stored
under names without a separator. -/
theorem readsBack_iff (hids : ∀ change ∈ changes, change.Holds)
    (hfew : ∀ tenant subject, (storedIn tenant subject changes).length < 0x100000000) :
    (∃ d, (database ∅).makeAll changes =
        .ok (changes.mapIdx fun i change => change.number (changes.take i), .database d) ∧
      d.ReadsBack changes) ↔
    ∀ change ∈ changes, change.Legible := by
  constructor
  · rintro ⟨d, hrun, h⟩ change hchange
    cases change with
    | schema t u id text =>
      have hlists : d.Lists t u := lists_of_makeAll hrun (.inr ⟨_, hchange, id, text, rfl⟩)
      exact hlists.plain (h.versions t u)
    | globalLevel => trivial
    | subjectLevel => trivial
    | user => trivial
  · intro hnames
    have hfit := Change.storable_schemas hnames hids hfew
    rw [← List.nil_append changes] at hfit
    obtain ⟨d, hrun, h⟩ := makeAll_keeps Database.keeps_empty hfit
    exact ⟨d, hrun, h.readsBack hfit⟩

theorem readsBack_iff_names :
    let changes : List Change := [.globalLevel "acme\x00" .none, .schema "" "" (-1) "x",
      .subjectLevel "acme" "a\x00b" .full, .schema "acme" "a/é" 7 "y", .schema "" "" 7 "x"]
    (∀ change ∈ changes, change.Holds) ∧ (∀ change ∈ changes, change.Legible) ∧
    ∃ d, (database ∅).makeAll changes = .ok ([none, some 1, none, some 1, some 2], .database d) ∧
      d.ReadsBack changes := by
  intro changes
  have hids : ∀ change ∈ changes, change.Holds := by decide
  have hnames : ∀ change ∈ changes, change.Legible := by decide
  have hreads := readsBack_iff hids (Change.length_storedIn_lt (by decide))
  exact ⟨hids, hnames, hreads.2 hnames⟩

/-- A subject with a separator in its name is accepted, and from then on neither its own versions
nor the subjects of its tenant can be read, nor can it get another version. -/
theorem not_readsBack_separator :
    let change : Change := .schema "acme" "a\x00b" 1 "x"
    let key := Key.schema "acme" "a\x00b" 1
    ∃ b, (database ∅).make change = .ok (some 1, b) ∧
      b.view.versions? "acme" "a\x00b" = .error (.badKey key) ∧
      b.view.subjects "acme" = .error (.badKey key) ∧
      (b.versionFor change) = .error (.badKey key) := by
  intro change key
  refine ⟨_, rfl, ?_⟩
  decide +kernel

end Backend

end SchemaRegistry
