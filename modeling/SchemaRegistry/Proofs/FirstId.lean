import SchemaRegistry.Proofs.Repeat

/-!
Which id a cache gives for a text that several schemas have: that of the first of them in the order
of subjects, not of the first that was registered.  So the id that is given is the lowest one only
if no subject of a lesser name has the text, and it changes once such a subject is registered.
-/

namespace SchemaRegistry

open Change (stored storedIn)

def Schema.toStored (s : Schema) : Stored := ⟨s.subject, s.id, s.text⟩

namespace Stored

/-- A schema with the text, in the first subject that has it, and the earliest one there. -/
structure Leads (x : Stored) (xs : List Stored) (text : String) : Prop where
  mem : x ∈ xs
  text_eq : x.text = text
  before : ∀ y ∈ xs, y.text = text →
    KeyLt x.subject y.subject ∨ x.subject = y.subject ∧ x.id ≤ y.id

structure Lowest (x : Stored) (xs : List Stored) (text : String) : Prop where
  mem : x ∈ xs
  text_eq : x.text = text
  least : ∀ y ∈ xs, y.text = text → x.id ≤ y.id

/-- What is answered for the id of a text once some schemas are replayed, and once further ones
are. -/
inductive Told (xs new : List Stored) (text : String) (now later : Answer (Option Int)) : Prop
  | absent (nowhere : ∀ x ∈ xs, x.text ≠ text) (answer : now = .ok none)
  | present (x y : Stored) (leads : x.Leads xs text) (lowest : y.Lowest xs text)
    (answer : now = .ok (some x.id))
    (lowest_iff : x.id = y.id ↔ ∀ z ∈ xs, z.text = text → ¬ KeyLt z.subject y.subject)
    (kept_iff : later = .ok (some x.id) ↔ ∀ z ∈ new, z.text = text → ¬ KeyLt z.subject x.subject)

def ListedBefore (x y : Stored) : Prop :=
  KeyLt x.subject y.subject ∨ x.subject = y.subject ∧ x.id < y.id

variable {xs ys new : List Stored} {text : String} {x y : Stored}

theorem map_toStored_versions (n : Nat) (xs : List Stored) :
    (versions n xs).map Schema.toStored = xs := by
  induction xs generalizing n with
  | nil => rfl
  | cons x xs ih => rw [versions, List.map_cons, ih, Schema.toStored]

theorem exists_lowest (h : xs.Pairwise (·.id < ·.id)) (hx : x ∈ xs) :
    ∃ y : Stored, y.Lowest xs x.text := by
  cases hfind : xs.find? (·.text = x.text) with
  | none => simpa using List.find?_eq_none.1 hfind x hx
  | some y =>
    have htext : y.text = x.text := by simpa using List.find?_some hfind
    exact ⟨y, List.mem_of_find?_eq_some hfind, htext, fun z => id_le_of_find? h hfind⟩

theorem leads_of_find? (hordered : ys.Pairwise ListedBefore) (hmem : ∀ z, z ∈ ys ↔ z ∈ xs)
    (hfind : ys.find? (·.text = text) = some x) : x.Leads xs text := by
  refine ⟨(hmem x).1 (List.mem_of_find?_eq_some hfind), by simpa using List.find?_some hfind, ?_⟩
  obtain ⟨-, front, rest, rfl, hfront⟩ := List.find?_eq_some_iff_append.1 hfind
  intro y hy htext
  rcases List.mem_append.1 ((hmem y).2 hy) with hy | hy
  · have hne := hfront y hy
    simp [htext] at hne
  · rcases List.mem_cons.1 hy with rfl | hy
    · exact .inr ⟨rfl, Int.le_refl _⟩
    · refine (List.rel_of_pairwise_cons (List.pairwise_append.1 hordered).2.1 hy).imp_right ?_
      exact And.imp_right Int.le_of_lt

theorem Leads.not_lt (hx : x.Leads xs text) (hy : y ∈ xs) (htext : y.text = text) :
    ¬ KeyLt y.subject x.subject := by
  intro hlt
  rcases hx.before y hy htext with hgt | ⟨hsubject, -⟩
  · exact KeyLt.irrefl _ (hlt.trans hgt)
  · exact hlt.ne hsubject.symm

/-- A schema that is the earliest of its subject leads, unless a subject of a lesser name has the
text. -/
theorem Leads.id_eq_iff (hx : x.Leads xs text) (h : xs.Pairwise (·.id < ·.id)) (hy : y ∈ xs)
    (htext : y.text = text)
    (hleast : ∀ z ∈ xs, z.text = text → z.subject = y.subject → y.id ≤ z.id) :
    x.id = y.id ↔ ∀ z ∈ xs, z.text = text → ¬ KeyLt z.subject y.subject := by
  constructor
  · intro hid z hz
    cases eq_of_id_eq h hx.mem hy hid
    exact hx.not_lt hz
  · intro hleading
    rcases hx.before y hy htext with hlt | ⟨hsubject, hle⟩
    · exact absurd hlt (hleading x hx.mem hx.text_eq)
    · exact Int.le_antisymm hle (hleast x hx.mem hx.text_eq hsubject)

theorem Leads.id_eq_lowest_iff (hx : x.Leads xs text) (h : xs.Pairwise (·.id < ·.id))
    (hy : y.Lowest xs text) :
    x.id = y.id ↔ ∀ z ∈ xs, z.text = text → ¬ KeyLt z.subject y.subject :=
  hx.id_eq_iff h hy.mem hy.text_eq fun z hz htext _ => hy.least z hz htext

theorem Leads.id_eq_append_iff (hx : x.Leads xs text) (hy : y.Leads (xs ++ new) text)
    (h : (xs ++ new).Pairwise (·.id < ·.id)) :
    y.id = x.id ↔ ∀ z ∈ new, z.text = text → ¬ KeyLt z.subject x.subject := by
  obtain ⟨-, -, hlater⟩ := List.pairwise_append.1 h
  rw [hy.id_eq_iff h (List.mem_append_left _ hx.mem) hx.text_eq]
  · constructor
    · exact fun hleading z hz => hleading z (List.mem_append_right _ hz)
    · intro hleading z hz htext
      rcases List.mem_append.1 hz with hz | hz
      · exact hx.not_lt hz htext
      · exact hleading z hz htext
  · intro z hz htext hsubject
    rcases List.mem_append.1 hz with hz | hz
    · rcases hx.before z hz htext with hlt | ⟨-, hle⟩
      · exact absurd hsubject.symm hlt.ne
      · exact hle
    · exact Int.le_of_lt (hlater x hx.mem z hz)

end Stored

namespace Cache

variable {tenant : String} {changes : List Change}

theorem map_subject (tenant subject : String) (changes : List Change) :
    ((of changes).subject tenant subject).map Schema.toStored =
      storedIn tenant subject changes := by
  rw [subject_replayed, Stored.map_toStored_versions]

theorem mem_map_all (x : Stored) :
    x ∈ ((of changes).all tenant).map Schema.toStored ↔ x ∈ stored tenant changes := by
  rw [List.mem_map]
  constructor
  · rintro ⟨s, hs, rfl⟩
    obtain ⟨subject, hs⟩ := (mem_all_iff ..).1 hs
    have hin := List.mem_map_of_mem (f := Schema.toStored) hs
    rw [map_subject] at hin
    exact (List.mem_filter.1 hin).1
  · intro hx
    have hin : x ∈ storedIn tenant x.subject changes := List.mem_filter.2 ⟨hx, by simp⟩
    rw [← map_subject] at hin
    obtain ⟨s, hs, rfl⟩ := List.mem_map.1 hin
    exact ⟨s, (mem_all_iff ..).2 ⟨_, hs⟩, rfl⟩

theorem pairwise_map_all (h : (stored tenant changes).Pairwise (·.id < ·.id)) :
    (((of changes).all tenant).map Schema.toStored).Pairwise Stored.ListedBefore := by
  rw [List.pairwise_map]
  refine pairwise_all_of (fun _ _ => .inl) fun subject => ?_
  rw [← List.pairwise_map (R := Stored.ListedBefore), map_subject]
  refine (h.filter _).imp_of_mem fun hx hy hlt => .inr ⟨?_, hlt⟩
  rw [Change.subject_of_mem_storedIn hx, Change.subject_of_mem_storedIn hy]

theorem id?_eq (tenant text : String) (changes : List Change) :
    (of changes).view.id? tenant text =
      .ok (((((of changes).all tenant).map Schema.toStored).find? (·.text = text)).map (·.id)) := by
  rw [List.find?_map, Option.map_map]
  rfl

theorem id?_of_none {text : String} (h : ∀ x ∈ stored tenant changes, x.text ≠ text) :
    (of changes).view.id? tenant text = .ok none := by
  rw [id?_eq, List.find?_eq_none.2, Option.map_none]
  intro x hx
  simpa using h x ((mem_map_all x).1 hx)

theorem exists_leads (h : (stored tenant changes).Pairwise (·.id < ·.id)) {x : Stored}
    (hx : x ∈ stored tenant changes) :
    ∃ y : Stored, y.Leads (stored tenant changes) x.text ∧
      (of changes).view.id? tenant x.text = .ok (some y.id) := by
  rw [id?_eq]
  cases hfind : (((of changes).all tenant).map Schema.toStored).find? (·.text = x.text) with
  | none => simpa using List.find?_eq_none.1 hfind x ((mem_map_all x).2 hx)
  | some y => exact ⟨y, Stored.leads_of_find? (pairwise_map_all h) mem_map_all hfind, rfl⟩

theorem told_of {p q : List Change} {xs new : List Stored} (hp : stored tenant p = xs)
    (hq : stored tenant q = xs ++ new) (h : (xs ++ new).Pairwise (·.id < ·.id)) (text : String) :
    Stored.Told xs new text ((of p).view.id? tenant text) ((of q).view.id? tenant text) := by
  subst hp
  obtain ⟨hids, -, -⟩ := List.pairwise_append.1 h
  by_cases hnone : ∀ x ∈ stored tenant p, x.text ≠ text
  · exact .absent hnone (id?_of_none hnone)
  · simp only [not_forall, not_not] at hnone
    obtain ⟨z, hz, rfl⟩ := hnone
    obtain ⟨x, hx, hid⟩ := exists_leads hids hz
    obtain ⟨y, hy⟩ := Stored.exists_lowest hids hz
    have hall := List.mem_append_left new hz
    rw [← hq] at h hall
    obtain ⟨x', hx', hid'⟩ := exists_leads h hall
    rw [hq] at h hx'
    refine .present x y hx hy hid (hx.id_eq_lowest_iff hids hy) ?_
    rw [hid', Except.ok.injEq, Option.some.injEq]
    exact hx.id_eq_append_iff hx' h

end Cache

namespace Durable

variable {d : Durable} {rs : List Record}

theorem Lags.id?_eq (h : d.Lags rs) (tenant text : String) :
    d.storage.cache.view.id? tenant text =
      (Cache.of (d.replayed tenant (Change.of rs))).view.id? tenant text :=
  (h.share tenant).sameFor.id text

/-- Whatever has been written and replayed, a text has the id of a schema in the first subject that
has it.  The id is the lowest one as long as no subject of a lesser name has the text, and stays
what it is as long as no such subject is replayed. -/
theorem steps_leads {l : Log} (hl : l.New) {steps more : List Step}
    (hn : Countable (Change.of ((steps ++ more).filterMap Step.record?))) (tenant : String) :
    let d := steps.foldl step (startCached l)
    let d' := more.foldl step d
    ∃ l' m xs new, d'.storage.log = some l' ∧ l'.Holds m ∧
      stored tenant (((m.entries tenant).take (d.next tenant)).filterMap Entry.change?) = xs ∧
      stored tenant (((m.entries tenant).take (d'.next tenant)).filterMap Entry.change?) =
        xs ++ new ∧
      ∀ text, Stored.Told xs new text (d.storage.cache.view.id? tenant text)
        (d'.storage.cache.view.id? tenant text) := by
  intro d d'
  rw [List.filterMap_append] at hn
  obtain ⟨rs, hrs, h⟩ :=
    (lags_start hl).steps steps (hn.sublist (List.sublist_append_left ..)).addressable
  rw [List.nil_append] at h
  have hall := hn.sublist (hrs.append_right _)
  obtain ⟨later, hlater, h'⟩ := h.steps more hall.addressable
  have hn' := hall.sublist (hlater.append_left rs)
  have hsame : d.replayed tenant (Change.of rs) = d.replayed tenant (Change.of (rs ++ later)) :=
    (MemoryLog.take_on_append (h.next tenant) later).symm
  -- what is replayed now is the front of what is replayed then
  have hfront : d.replayed tenant (Change.of (rs ++ later)) <+:
      d'.replayed tenant (Change.of (rs ++ later)) :=
    List.take_prefix_take_left (h.next_le_steps more hall.addressable tenant)
  obtain ⟨new, hnew⟩ := Change.stored_isPrefix hfront tenant
  obtain ⟨l', hstorage, hl'⟩ := h'.storage
  refine ⟨l', _, _, new, congrArg (·.log) hstorage, hl', rfl, ?_, fun text => ?_⟩
  · rw [MemoryLog.filterMap_take, MemoryLog.filterMap_take]
    exact hnew.symm
  · have hids := ids_replayed hn' d' tenant
    rw [← hnew] at hids
    rw [MemoryLog.filterMap_take, h.id?_eq, h'.id?_eq, hsame]
    exact Cache.told_of rfl hnew.symm hids text

theorem steps_leads_kept :
    let steps : List Step :=
      [.write (.schema "t" "b" "x"), .write (.schema "t" "c" "x"), .poll "t" 2]
    let more : List Step :=
      [.write (.schema "t" "a" "y"), .write (.schema "t" "d" "x"), .poll "t" 2]
    let d := steps.foldl step (startCached (.memory ∅))
    let d' := more.foldl step d
    Countable (Change.of ((steps ++ more).filterMap Step.record?)) ∧
    d.storage.cache.view.id? "t" "x" = .ok (some 1) ∧
    d'.storage.cache.view.id? "t" "x" = .ok (some 1) := by
  intro steps more d d'
  have hn : Countable (Change.of ((steps ++ more).filterMap Step.record?)) := .of_length (by decide)
  have hfirst : d.storage.cache.view.id? "t" "x" = .ok (some 1) := by decide +kernel
  obtain ⟨m, hlog, hxs, hnew⟩ : ∃ m, d'.storage.log = some (.memory m) ∧
      stored "t" (((m.entries "t").take (d.next "t")).filterMap Entry.change?) =
        [⟨"b", 1, "x"⟩, ⟨"c", 2, "x"⟩] ∧
      stored "t" (((m.entries "t").take (d'.next "t")).filterMap Entry.change?) =
        [⟨"b", 1, "x"⟩, ⟨"c", 2, "x"⟩] ++ [⟨"a", 3, "y"⟩, ⟨"d", 4, "x"⟩] := by
    refine ⟨_, rfl, ?_⟩
    decide +kernel
  obtain ⟨l', m', xs, new, hlog', hl', hxs', hnew', htold⟩ := steps_leads .memory hn "t"
  cases hlog.symm.trans hlog'
  cases hl'
  cases hxs.symm.trans hxs'
  cases List.append_cancel_left (hnew.symm.trans hnew')
  cases htold "x" with
  | absent hnone => exact absurd rfl (hnone ⟨"b", 1, "x"⟩ List.mem_cons_self)
  | present x y hx _ hid _ hkept =>
    have hone : x.id = 1 := by simpa using hid.symm.trans hfirst
    have hb : x = ⟨"b", 1, "x"⟩ := Stored.eq_of_id_eq (by decide) hx.mem List.mem_cons_self hone
    refine ⟨hn, hfirst, ?_⟩
    rw [← hone]
    exact hkept.2 (by rw [hb]; decide)

/-- Of two subjects with one text, the one of the lesser name takes the id over, though it was
registered later and the other keeps the text. -/
theorem id?_overtaken :
    let steps : List Step :=
      [.write (.schema "t" "b" "x"), .write (.schema "t" "a" "x"), .poll "t" 1]
    let d := steps.foldl step (startCached (.memory ∅))
    let d' := d.step (.poll "t" 1)
    d.storage.cache.view.id? "t" "x" = .ok (some 1) ∧
    d'.storage.cache.view.id? "t" "x" = .ok (some 2) ∧
    d'.storage.cache.view.textOfId? "t" 1 = .ok (some "x") := by
  decide +kernel

end Durable

end SchemaRegistry
