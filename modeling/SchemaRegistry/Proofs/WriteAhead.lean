import Mathlib.Data.List.Induction
import Mathlib.Data.List.NodupEquivFin
import Mathlib.Order.WellFounded
import SchemaRegistry.Proofs.Durable

/-!
Writes of which the first part or the second may fail.  The backend has a part of what the log has,
in the order of the log; so its versions lag behind those that a replay counts, but its ids are
offsets all the same.
-/

namespace SchemaRegistry

namespace MemoryLog

theorem fetch_of_mem_entries {m : MemoryLog} {stream : String} {e : Entry}
    (h : e ∈ m.entries stream) : m.fetch stream e.offset 1 = [e] := by
  obtain ⟨i, hi, rfl⟩ := List.mem_iff_getElem.1 h
  rw [fetch_eq, offset_of_getElem? (List.getElem?_eq_getElem hi), List.drop_eq_getElem_cons hi]
  rfl

theorem exists_entry {rs : List Record} {stream : String} {change : Change}
    (h : change ∈ Change.on stream (Change.of rs)) :
    ∃ e ∈ (of rs).entries stream, e.change? = some change := by
  have hmem := List.mem_map_of_mem (f := some) h
  rw [← map_entries_of] at hmem
  exact List.mem_map.1 hmem

end MemoryLog

namespace Backend

inductive New : Backend → Prop
  | cache : New (.cache ∅)
  | database : New (.database ∅)

def Took (changes : List Change) : Backend → Prop
  | cache c => c = .of changes
  | database d => d.Mirrors (.of changes)

def HasRow (tenant subject : String) (version : Nat) (row : Row) : Backend → Prop
  | cache c => ∃ s ∈ c.subject tenant subject, s.version = version ∧ ⟨s.id, s.text⟩ = row
  | database d => ∃ bytes, d.schemas.get? (Key.schema tenant subject version) = some bytes ∧
      Row.decode bytes = .ok row

variable {b : Backend} {changes : List Change}

theorem New.took (h : b.New) : b.Took [] := by
  cases h with
  | cache => rfl
  | database => exact Database.mirrors_empty

theorem Took.apply (h : b.Took changes) {change : Change}
    (hfit : Change.Storable (changes ++ [change])) :
    ∃ b', b.apply change = .ok b' ∧ b'.Took (changes ++ [change]) := by
  cases b with
  | cache c =>
    subst h
    exact ⟨_, rfl, (Cache.of_append changes [change]).symm⟩
  | database d =>
    obtain ⟨d', happly, hd'⟩ := Database.Mirrors.apply h hfit
    exact ⟨.database d', by rw [Backend.apply, happly]; rfl, hd'⟩

theorem Took.hasRow (h : b.Took changes) (hfit : Change.Storable changes) {tenant subject : String}
    (ht : Key.Plain tenant) {version : Nat} {row : Row}
    (hrow : b.HasRow tenant subject version row) :
    ∃ k x, version = k + 1 ∧ (Change.storedIn tenant subject changes)[k]? = some x ∧
      row = ⟨x.id, x.text⟩ := by
  have hversions {s : Schema} (hs : s ∈ (Cache.of changes).subject tenant subject) :
      ∃ k x, s.version = k + 1 ∧ (Change.storedIn tenant subject changes)[k]? = some x ∧
        Row.mk s.id s.text = ⟨x.id, x.text⟩ := by
    rw [Cache.subject_replayed] at hs
    obtain ⟨k, x, hx, rfl⟩ := Stored.mem_versions_iff.1 hs
    exact ⟨k, x, by rw [Nat.zero_add], hx, rfl⟩
  cases b with
  | cache c =>
    subst h
    obtain ⟨s, hs, rfl, rfl⟩ := hrow
    exact hversions hs
  | database d =>
    obtain ⟨bytes, hget, hdecode⟩ := hrow
    obtain ⟨t, u, s, hs, hkey, rfl⟩ := (Database.Mirrors.schemas h _ _).1 hget
    obtain ⟨htplain, huplain, hid⟩ := Cache.fits_of_mem hfit hs
    obtain ⟨rfl, rfl, rfl⟩ := Key.schema_inj ht htplain huplain hkey
    cases (Row.decode_encode (r := ⟨s.id, s.text⟩) hid).symm.trans hdecode
    exact hversions hs

end Backend

namespace Record

def storesIn (tenant subject : String) : Record → Bool
  | schema client s _ => client = tenant && s = subject
  | globalConfig .. => false
  | subjectConfig .. => false
  | createUser .. => false

/-- There are ids for all records of a stream, and versions for all schemas of a subject. -/
structure Few (rs : List Record) : Prop where
  stream : ∀ stream, (rs.filter (·.stream = stream)).length < 0x8000000000000000
  subject : ∀ tenant subject, rs.countP (storesIn tenant subject) < 0x100000000

theorem Few.sublist {rs ss : List Record} (h : Few ss) (hsub : rs.Sublist ss) : Few rs where
  stream stream := Nat.lt_of_le_of_lt (hsub.filter _).length_le (h.stream stream)
  subject tenant subject := Nat.lt_of_le_of_lt hsub.countP_le (h.subject tenant subject)

theorem Few.of_length {rs : List Record} (h : rs.length < 0x100000000) : Few rs where
  stream _ := Nat.lt_of_le_of_lt (List.length_filter_le ..) (by omega)
  subject _ _ := Nat.lt_of_le_of_lt List.countP_le_length h

end Record

namespace Change

theorem length_storedIn (tenant subject : String) (changes : List Change) :
    (storedIn tenant subject changes).length =
      (changes.map (·.record)).countP (Record.storesIn tenant subject) := by
  induction changes with
  | nil => rfl
  | cons change changes ih =>
    rw [storedIn_cons, List.length_append, ih, List.map_cons, List.countP_cons, Nat.add_comm]
    congr 1
    cases change with
    | schema t s id text =>
      by_cases ht : t = tenant <;> by_cases hs : s = subject <;>
        simp [storedIn, stored, stored?, record, Record.storesIn, ht, hs]
    | globalLevel => rfl
    | subjectLevel => rfl
    | user => rfl

end Change

namespace Record.Few

variable {rs : List Record}

theorem countable (h : Few rs) : Durable.Countable (Change.of rs) := fun stream =>
  (Change.length_on rs stream).symm ▸ h.stream stream

theorem storable (h : Few rs) {cs : List Change} (hsub : cs.Sublist (Change.of rs))
    (hfits : ∀ change ∈ cs, change.Fits) : Change.Storable cs where
  fits := hfits
  few tenant subject := by
    refine Nat.lt_of_le_of_lt (Change.storedIn_sublist hsub tenant subject).length_le ?_
    rw [Change.length_storedIn, MemoryLog.map_record_changes]
    exact h.subject tenant subject

end Record.Few

structure Attempt where
  record : Record
  outages : Outages
  deriving DecidableEq

namespace Storage

def attempt (s : Storage) (a : Attempt) : Except StorageError Change × Storage :=
  a.record.write.on { s with outages := a.outages }

def attemptAll (s : Storage) (as : List Attempt) : Storage :=
  as.foldl (fun s a => (s.attempt a).2) s

def recovered (s : Storage) : Storage := { s with outages := [] }

def keep : Change → Action Storage StorageError Unit
  | .user _ => pure ()
  | change => (changeBackend change).mapError .store

variable {s s' : Storage} {r : Record}

theorem write_unpublished {e : StorageError} (h : (publish r).on s = (.error e, s')) :
    r.write.on s = (.error e, s') := by
  cases r with
  | schema => simp only [Record.write, storeSchema, Action.on_bind, h]
  | globalConfig => simp only [Record.write, setGlobalLevel, Action.on_bind, h]
  | subjectConfig => simp only [Record.write, setSubjectLevel, Action.on_bind, h]
  | createUser => simp only [Record.write, publishUser, Action.on_bind, h]

theorem write_published {offset : Nat} (h : (publish r).on s = (.ok (some offset), s')) :
    r.write.on s = (((keep (r.change offset)).on s').1.map fun _ => r.change offset,
      ((keep (r.change offset)).on s').2) := by
  cases r with
  | schema client subject text =>
    simp only [Record.write, storeSchema, Action.on_bind, h, Record.change, keep, idOf]
    rcases (Action.mapError _ _).on s' with ⟨_ | _, _⟩ <;> rfl
  | globalConfig client level =>
    simp only [Record.write, setGlobalLevel, Action.on_bind, h, Record.change, keep]
    rcases (Action.mapError _ _).on s' with ⟨_ | _, _⟩ <;> rfl
  | subjectConfig client subject level =>
    simp only [Record.write, setSubjectLevel, Action.on_bind, h, Record.change, keep]
    rcases (Action.mapError _ _).on s' with ⟨_ | _, _⟩ <;> rfl
  | createUser name token admin =>
    simp only [Record.write, publishUser, Action.on_bind, h]
    rfl

theorem tracks_beside {m : MemoryLog} (s : Storage)
    (hn : ∀ stream, m.length stream ≤ Frame.offsets) :
    beside.Tracks m fun t c => t.2 = c ∧ ∃ l,
      t.1 = { s.recovered with log := some l } ∧ l.Holds m where
  fetch := by
    rintro ⟨_, c⟩ _ ⟨rfl, l, rfl, hl⟩ stream start max
    obtain ⟨l', hfetch, hl'⟩ := hl.fetch (hn stream) start max
    refine ⟨({ s.recovered with log := some l' }, c), ?_, rfl, l', rfl, hl'⟩
    simp [beside, Storage.fetch, recovered, Outages.refuse, hfetch]
  change := by
    rintro ⟨t, c⟩ _ ⟨rfl, hs⟩ change
    exact ⟨(t, c.apply change), rfl, rfl, hs⟩

theorem publish_unless (r : Record) {l : Log} (h : s.log = some l) :
    (publish r).on s = if s.outages.refuse .logAppend then (.error (.log (.io r.stream .down)), s)
      else ((l.append r.stream r.key r.value).1.map some |>.mapError .log,
        { s with log := some (l.append r.stream r.key r.value).2 }) := by
  rw [publish, Action.on_mapError, appendEntry, Action.on_of, h]
  simp only
  split <;> rfl

theorem keep_cases {b : Backend} {cs : List Change} (hs : s.backend = some b) (hb : b.Took cs)
    {change : Change} (hfit : Change.Storable (cs ++ [change])) :
    ∃ answer b' cs', (keep change).on s = (answer, { s with backend := some b' }) ∧ b'.Took cs' ∧
      (cs' = cs ∨ cs' = cs ++ [change]) := by
  obtain ⟨b', happly, hb'⟩ := hb.apply hfit
  have hkept (hkeep : keep change = (changeBackend change).mapError .store) :
      ∃ answer b' cs', (keep change).on s = (answer, { s with backend := some b' }) ∧ b'.Took cs' ∧
        (cs' = cs ∨ cs' = cs ++ [change]) := by
    rw [hkeep, Action.on_mapError, changeBackend, Action.on_of, hs]
    simp only
    split
    · exact ⟨_, b, cs, by rw [← hs], hb, .inl rfl⟩
    · rw [happly]
      exact ⟨_, b', _, rfl, hb', .inr rfl⟩
  cases change with
  | user => exact ⟨_, b, cs, by rw [← hs]; rfl, hb, .inl rfl⟩
  | schema => exact hkept rfl
  | globalLevel => exact hkept rfl
  | subjectLevel => exact hkept rfl

end Storage

/-- The log has these records; of the changes that they are, the backend has taken these. -/
structure Ahead (rs : List Record) (cs : List Change) (s : Storage) : Prop where
  log : ∃ l, s.log = some l ∧ l.Holds (.of rs)
  backend : ∃ b, s.backend = some b ∧ b.Took cs
  sublist : cs.Sublist (Change.of rs)
  fits : ∀ change ∈ cs, change.Fits

namespace Ahead

variable {rs : List Record} {cs : List Change} {s : Storage}

theorem facing (h : Ahead rs cs s) (outages : Outages) : Ahead rs cs { s with outages } :=
  ⟨h.log, h.backend, h.sublist, h.fits⟩

theorem publish (h : Ahead rs cs s) (hfew : Record.Few rs) (r : Record) :
    (∃ l, (Storage.publish r).on s =
        (.ok (some ((MemoryLog.of rs).length r.stream)), { s with log := some l }) ∧
      l.Holds (.of (rs ++ [r]))) ∨
    ∃ cause l, (Storage.publish r).on s = (.error (.log cause), { s with log := some l }) ∧
      l.Holds (.of rs) := by
  obtain ⟨l, hlog, hl⟩ := h.log
  rw [Storage.publish_unless r hlog]
  split
  · exact .inr ⟨_, l, by rw [← hlog], hl⟩
  · rcases hl.append_cases (hfew.countable.offsets r.stream) r.key r.value with
      ⟨l', happend, hl'⟩ | ⟨e, l', happend, hl'⟩
    · rw [happend]
      exact .inl ⟨l', rfl, (MemoryLog.of_concat rs r).symm ▸ hl'⟩
    · rw [happend]
      exact .inr ⟨e, l', rfl, hl'⟩

theorem attempt (h : Ahead rs cs s) {a : Attempt} (hplain : a.record.Plain)
    (hfew : Record.Few (rs ++ [a.record])) :
    ∃ rs' cs', Ahead rs' cs' (s.attempt a).2 ∧
      ((∃ e s', (Storage.publish a.record).on { s with outages := a.outages } = (.error e, s')) ∧
          rs' = rs ∨
        (∃ s', (Storage.publish a.record).on { s with outages := a.outages } =
          (.ok (some ((MemoryLog.of rs).length a.record.stream)), s')) ∧
            rs' = rs ++ [a.record]) := by
  have hrs : Record.Few rs := hfew.sublist (List.sublist_append_left ..)
  obtain ⟨b, hb, htook⟩ := h.backend
  rw [Storage.attempt]
  rcases (h.facing a.outages).publish hrs a.record with ⟨l, hpublish, hl⟩ | ⟨cause, l, hpublish, hl⟩
  · rw [Storage.write_published hpublish]
    generalize hchange : a.record.change ((MemoryLog.of rs).length a.record.stream) = change
    have hof : Change.of (rs ++ [a.record]) = Change.of rs ++ [change] := by
      rw [← hchange]
      exact MemoryLog.changes_concat rs a.record
    have hoffset : (MemoryLog.of rs).length a.record.stream < 0x7fffffffffffffff := by
      have := hfew.stream a.record.stream
      rw [List.filter_append, List.length_append, ← Change.length_on, ← MemoryLog.length_of,
        List.filter_cons_of_pos (by simp), List.filter_nil, List.length_singleton] at this
      omega
    have hfits : ∀ c ∈ cs ++ [change], c.Fits := List.forall_mem_append.2
      ⟨h.fits, List.forall_mem_singleton.2 (hchange ▸ hplain.fits hoffset)⟩
    have hsub : (cs ++ [change]).Sublist (Change.of (rs ++ [a.record])) := by
      rw [hof]
      exact h.sublist.append_right _
    obtain ⟨answer, b', cs', hkeep, htook', hcs'⟩ := Storage.keep_cases
      (s := { s with outages := a.outages, log := some l }) hb htook (hfew.storable hsub hfits)
    rw [hkeep]
    refine ⟨rs ++ [a.record], cs', ⟨⟨l, rfl, hl⟩, ⟨b', rfl, htook'⟩, ?_, ?_⟩,
      .inr ⟨⟨_, hpublish⟩, rfl⟩⟩
    · rcases hcs' with rfl | rfl
      · rw [hof]
        exact h.sublist.trans (List.sublist_append_left ..)
      · exact hsub
    · rcases hcs' with rfl | rfl
      · exact h.fits
      · exact hfits
  · rw [Storage.write_unpublished hpublish]
    exact ⟨rs, cs, ⟨⟨l, rfl, hl⟩, ⟨b, hb, htook⟩, h.sublist, h.fits⟩,
      .inl ⟨⟨_, _, hpublish⟩, rfl⟩⟩

theorem attemptAll (h : Ahead [] [] s) (as : List Attempt) (hplain : ∀ a ∈ as, a.record.Plain)
    (hfew : Record.Few (as.map (·.record))) :
    ∃ rs cs, Ahead rs cs (s.attemptAll as) ∧ rs.Sublist (as.map (·.record)) := by
  induction as using List.reverseRecOn with
  | nil => exact ⟨[], [], h, .slnil⟩
  | append_singleton as a ih =>
    rw [List.map_append] at hfew ⊢
    obtain ⟨hbefore, hlast⟩ := List.forall_mem_append.1 hplain
    obtain ⟨rs, cs, hs, hsub⟩ := ih hbefore (hfew.sublist (List.sublist_append_left ..))
    obtain ⟨rs', cs', hs', hrs'⟩ := hs.attempt (hlast a List.mem_cons_self)
      (hfew.sublist (hsub.append_right _))
    rw [Storage.attemptAll, List.foldl_append]
    refine ⟨rs', cs', hs', ?_⟩
    rcases hrs' with ⟨-, rfl⟩ | ⟨-, rfl⟩
    · exact hsub.trans (List.sublist_append_left ..)
    · exact hsub.append_right _

theorem storable (h : Ahead rs cs s) (hfew : Record.Few rs) : Change.Storable cs :=
  hfew.storable h.sublist h.fits

theorem hasRow (h : Ahead rs cs s) (hfew : Record.Few rs) {b : Backend} (hb : s.backend = some b)
    {tenant subject : String} (ht : Key.Plain tenant) {version : Nat} {row : Row}
    (hrow : b.HasRow tenant subject version row) :
    ∃ k x, version = k + 1 ∧ (Change.storedIn tenant subject cs)[k]? = some x ∧
      row = ⟨x.id, x.text⟩ := by
  obtain ⟨b', hb', htook⟩ := h.backend
  cases hb'.symm.trans hb
  exact htook.hasRow (h.storable hfew) ht hrow

theorem fetch (h : Ahead rs cs s) (hfew : Record.Few rs) {stream : String} {e : Entry}
    (he : e ∈ (MemoryLog.of rs).entries stream) :
    ∃ s', (Storage.fetch stream e.offset 1).on s.recovered = (.ok [e], s') := by
  obtain ⟨l, hlog, hl⟩ := h.log
  obtain ⟨l', hfetch, -⟩ := hl.fetch (hfew.countable.offsets stream) e.offset 1
  rw [MemoryLog.fetch_of_mem_entries he] at hfetch
  refine ⟨{ s.recovered with log := some l' }, ?_⟩
  rw [Storage.fetch, Action.on_of, show s.recovered.log = some l from hlog]
  simp only [Storage.recovered, Outages.refuse, List.contains_nil, Bool.false_eq_true, ↓reduceIte,
    hfetch]

theorem replay (h : Ahead rs cs s) (hfew : Record.Few rs) (max : Nat) (stream : String) :
    ∃ answer s', (Storage.beside.replay max stream).on (s.recovered, ∅) =
      (.ok answer, (s', .of (Change.on stream (Change.of rs)))) := by
  obtain ⟨l, hlog, hl⟩ := h.log
  have hbound : Storage.beside.bound stream (s.recovered, ∅) = (MemoryLog.of rs).length stream := by
    rw [show Storage.beside.bound stream (s.recovered, ∅) = s.recovered.bound stream from rfl,
      Storage.bound, show s.recovered.log = some l from hlog]
    exact hl.bound (hfew.countable.offsets stream)
  obtain ⟨⟨s', c⟩, hadvance, hc, -⟩ := (Storage.tracks_beside s hfew.countable.offsets).advance
    (s := (s.recovered, ∅)) (c := ∅) ⟨rfl, l, by rw [← show s.recovered.log = some l from hlog], hl⟩
    stream (Nat.lt_of_lt_of_le Nat.one_pos (Nat.le_max_right max 1))
    ((MemoryLog.of rs).length stream + 1) 0 (Nat.zero_le _) (by omega)
  subst hc
  rw [List.drop_zero, Cache.takeIn, MemoryLog.filterMap_entries] at hadvance
  refine ⟨(.of ((MemoryLog.of rs).entries stream), ⟨stream, (MemoryLog.of rs).length stream⟩),
    s', ?_⟩
  simp only [Replayer.replay, Action.on_of, Replayer.toEnd, Cursor.start, hbound, hadvance]
  rfl

section

variable (h : Ahead rs cs s) (hfew : Record.Few rs) {b : Backend} (hb : s.backend = some b)
  {tenant subject : String} (ht : Key.Plain tenant)
include h hfew hb ht

theorem logged {version : Nat} {row : Row} (hrow : b.HasRow tenant subject version row) :
    ∃ (offset : Nat) (e : Entry) (s' : Storage), row.id = offset + 1 ∧
      (Storage.fetch tenant offset 1).on s.recovered = (.ok [e], s') ∧
      Record.decode e.key e.value = .ok (.schema tenant subject row.text) := by
  obtain ⟨k, x, -, hx, rfl⟩ := h.hasRow hfew hb ht hrow
  have hchange := Change.schema_of_mem_storedIn (List.mem_of_getElem? hx)
  have hon : .schema tenant subject x.id x.text ∈ Change.on tenant (Change.of rs) :=
    List.mem_filter.2 ⟨h.sublist.subset hchange, by simp [Change.record, Record.stream]⟩
  obtain ⟨e, he, hentry⟩ := MemoryLog.exists_entry hon
  obtain ⟨hdecode, hoffset⟩ := e.decode_of_change? hentry
  obtain ⟨s', hfetch⟩ := h.fetch hfew he
  have hid : Schema.idAt e.offset = x.id := by
    injection hoffset
  have hlast := (MemoryLog.mem_numbered he).2.2
  have hlength : (MemoryLog.of rs).length tenant < 0x8000000000000000 := by
    rw [MemoryLog.length_of]
    exact hfew.countable tenant
  rw [Nat.zero_add] at hlast
  refine ⟨e.offset, e, s', ?_, hfetch, hdecode⟩
  exact hid.symm.trans (Schema.idAt_of_lt (Nat.lt_trans hlast hlength))

theorem ids {version version' : Nat} {row row' : Row} (hrow : b.HasRow tenant subject version row)
    (hrow' : b.HasRow tenant subject version' row') (hlt : version < version') :
    row.id < row'.id := by
  obtain ⟨k, x, rfl, hx, rfl⟩ := h.hasRow hfew hb ht hrow
  obtain ⟨k', x', rfl, hx', rfl⟩ := h.hasRow hfew hb ht hrow'
  have hids : (Change.storedIn tenant subject cs).Pairwise (·.id < ·.id) :=
    (hfew.countable.ids tenant).sublist (List.filter_sublist.trans (h.sublist.filterMap _))
  obtain ⟨hk, rfl⟩ := List.getElem?_eq_some_iff.1 hx
  obtain ⟨hk', rfl⟩ := List.getElem?_eq_some_iff.1 hx'
  exact List.pairwise_iff_getElem.1 hids k k' hk hk' (by omega)

theorem replayed {version : Nat} {row : Row} (hrow : b.HasRow tenant subject version row) :
    ∃ x ∈ (Cache.of (Change.on tenant (Change.of rs))).subject tenant subject,
      x.id = row.id ∧ x.text = row.text ∧ version ≤ x.version := by
  obtain ⟨k, x, rfl, hx, rfl⟩ := h.hasRow hfew hb ht hrow
  -- what the backend has left out stands before the row, if anywhere
  have hsub := Change.storedIn_sublist h.sublist tenant subject
  obtain ⟨place, hplace⟩ := List.sublist_iff_exists_orderEmbedding_getElem?_eq.1 hsub
  have hlater : k ≤ place k := place.strictMono.le_apply
  rw [Cache.subject_replayed, Change.storedIn_on]
  refine ⟨_, Stored.mem_versions_iff.2 ⟨place k, x, (hplace k).symm.trans hx, rfl⟩, rfl, rfl, ?_⟩
  simp only
  omega

end

theorem exists_row (h : Ahead rs cs s) (hfew : Record.Few rs) {d : Database}
    (hb : s.backend = some (.database d)) {key : String} {bytes : Bytes}
    (hget : d.schemas.get? key = some bytes) :
    ∃ tenant subject version row, Key.Plain tenant ∧ Key.Plain subject ∧
      key = Key.schema tenant subject version ∧ Row.decode bytes = .ok row := by
  obtain ⟨b', hb', htook⟩ := h.backend
  cases hb'.symm.trans hb
  obtain ⟨t, u, x, hx, hkey, rfl⟩ := (Database.Mirrors.schemas htook _ _).1 hget
  obtain ⟨ht, hu, hid⟩ := Cache.fits_of_mem (h.storable hfew) hx
  exact ⟨t, u, x.version, ⟨x.id, x.text⟩, ht, hu, hkey, Row.decode_encode hid⟩

theorem attempt_unpublished (h : Ahead rs cs s) (hfew : Record.Few rs) {a : Attempt}
    {e : StorageError} {s' : Storage}
    (hpublish : (Storage.publish a.record).on { s with outages := a.outages } = (.error e, s')) :
    (s.attempt a).1 = .error e ∧ (s.attempt a).2.backend = s.backend := by
  rw [Storage.attempt, Storage.write_unpublished hpublish]
  refine ⟨rfl, ?_⟩
  rcases (h.facing a.outages).publish hfew a.record with ⟨l, hok, -⟩ | ⟨cause, l, herror, -⟩
  · cases hok.symm.trans hpublish
  · cases herror.symm.trans hpublish
    rfl

theorem attempt_unkept (h : Ahead rs cs s) {a : Attempt} (hplain : a.record.Plain)
    (hfew : Record.Few (rs ++ [a.record])) {offset : Nat} {e : StorageError} {s' s'' : Storage}
    (hpublish : (Storage.publish a.record).on { s with outages := a.outages } =
      (.ok (some offset), s'))
    (hkeep : (Storage.keep (a.record.change offset)).on s' = (.error e, s'')) :
    (s.attempt a).1 = .error e ∧ ∃ entry t,
      (Storage.fetch a.record.stream offset 1).on (s.attempt a).2.recovered = (.ok [entry], t) ∧
      Record.decode entry.key entry.value = .ok a.record := by
  refine ⟨by rw [Storage.attempt, Storage.write_published hpublish, hkeep]; rfl, ?_⟩
  obtain ⟨rs', cs', hs, ⟨⟨e', s₁, herror⟩, -⟩ | ⟨⟨s₁, hok⟩, rfl⟩⟩ :=
    h.attempt hplain hfew
  · cases herror.symm.trans hpublish
  · cases hok.symm.trans hpublish
    have hlast :
        (⟨(MemoryLog.of rs).length a.record.stream, a.record.key, a.record.value⟩ : Entry) ∈
          (MemoryLog.of (rs ++ [a.record])).entries a.record.stream := by
      rw [MemoryLog.of_concat, MemoryLog.publish, MemoryLog.entries_append, if_pos rfl]
      exact List.mem_append_right _ List.mem_cons_self
    obtain ⟨t, hfetch⟩ := hs.fetch hfew hlast
    exact ⟨_, t, hfetch, a.record.decode_key_value⟩

end Ahead

def Storage.new (l : Log) (b : Backend) : Storage := ⟨some l, ∅, some b, []⟩

theorem ahead_new {l : Log} (hl : l.New) {b : Backend} (hb : b.New) : Ahead [] [] (.new l b) where
  log := ⟨l, rfl, hl.holds⟩
  backend := ⟨b, rfl, hb.took⟩
  sublist := .slnil
  fits := nofun

/-- Whichever parts of writes fail, the log is ahead of the backend: each row is the schema of a
record at the offset that its id tells, and a replay finds it under no earlier version. -/
theorem Storage.attemptAll_logged {l : Log} (hl : l.New) {b : Backend} (hb : b.New)
    {as : List Attempt} (hplain : ∀ a ∈ as, a.record.Plain)
    (hfew : Record.Few (as.map (·.record))) :
    (∀ before a rest, as = before ++ a :: rest →
      let s := (new l b).attemptAll before
      (∀ e s', (publish a.record).on { s with outages := a.outages } = (.error e, s') →
        (s.attempt a).1 = .error e ∧ (s.attempt a).2.backend = s.backend) ∧
      ∀ offset e s' s'',
        (publish a.record).on { s with outages := a.outages } = (.ok (some offset), s') →
        (keep (a.record.change offset)).on s' = (.error e, s'') →
        (s.attempt a).1 = .error e ∧ ∃ entry t,
          (fetch a.record.stream offset 1).on (s.attempt a).2.recovered = (.ok [entry], t) ∧
          Record.decode entry.key entry.value = .ok a.record) ∧
    let s := (new l b).attemptAll as
    ∃ b', s.backend = some b' ∧
      (∀ d key bytes, b' = .database d → d.schemas.get? key = some bytes →
        ∃ tenant subject version row, Key.Plain tenant ∧ Key.Plain subject ∧
          key = Key.schema tenant subject version ∧ Row.decode bytes = .ok row) ∧
      ∀ tenant subject, Key.Plain tenant →
        (∀ version row, b'.HasRow tenant subject version row →
          ∃ (offset : Nat) (e : Entry) (t : Storage), row.id = offset + 1 ∧
            (fetch tenant offset 1).on s.recovered = (.ok [e], t) ∧
            Record.decode e.key e.value = .ok (.schema tenant subject row.text)) ∧
        (∀ version version' row row', b'.HasRow tenant subject version row →
          b'.HasRow tenant subject version' row' → version < version' → row.id < row'.id) ∧
        ∀ max, ∃ answer t cache, (beside.replay max tenant).on (s.recovered, ∅) =
          (.ok answer, (t, cache)) ∧
          ∀ version row, b'.HasRow tenant subject version row →
            ∃ x ∈ cache.subject tenant subject, x.id = row.id ∧ x.text = row.text ∧
              version ≤ x.version := by
  refine ⟨?_, ?_⟩
  · rintro before a rest rfl s
    rw [List.map_append, List.map_cons] at hfew
    obtain ⟨hbefore, hafter⟩ := List.forall_mem_append.1 hplain
    obtain ⟨rs, cs, hs, hsub⟩ := (ahead_new hl hb).attemptAll before hbefore
      (hfew.sublist (List.sublist_append_left ..))
    have hfew' : Record.Few (rs ++ [a.record]) :=
      hfew.sublist (hsub.append (List.cons_sublist_cons.2 (List.nil_sublist _)))
    exact ⟨fun e s' hpublish =>
      hs.attempt_unpublished (hfew'.sublist (List.sublist_append_left ..)) hpublish,
      fun offset e s' s'' hpublish hkeep =>
        hs.attempt_unkept (hafter a List.mem_cons_self) hfew' hpublish hkeep⟩
  · obtain ⟨rs, cs, hs, hsub⟩ := (ahead_new hl hb).attemptAll as hplain hfew
    have hrs := hfew.sublist hsub
    obtain ⟨b', hb', -⟩ := hs.backend
    refine ⟨b', hb', fun d key bytes hd hget => ?_,
      fun tenant subject ht => ⟨fun version row hrow => ?_,
        fun version version' row row' hrow hrow' hlt => ?_, fun max => ?_⟩⟩
    · subst hd
      exact hs.exists_row hrs hb' hget
    · exact hs.logged hrs hb' ht hrow
    · exact hs.ids hrs hb' ht hrow hrow' hlt
    · obtain ⟨answer, t, hreplay⟩ := hs.replay hrs max tenant
      exact ⟨answer, t, _, hreplay, fun version row hrow => hs.replayed hrs hb' ht hrow⟩

theorem Storage.attemptAll_logged_drifted :
    let as : List Attempt := [⟨.schema "t" "s" "x", [.backendWrite]⟩,
      ⟨.schema "t" "s" "y", [.logAppend]⟩, ⟨.schema "t" "s" "z", []⟩]
    let s := (new (.memory ∅) (.database ∅)).attemptAll as
    (∀ a ∈ as, a.record.Plain) ∧ Record.Few (as.map (·.record)) ∧
    (∃ d, s.backend = some (.database d) ∧ (Backend.database d).HasRow "t" "s" 1 ⟨2, "z"⟩) ∧
    (∃ e t, (fetch "t" 1 1).on s.recovered = (.ok [e], t) ∧
      Record.decode e.key e.value = .ok (.schema "t" "s" "z")) ∧
    (∃ answer t cache, (beside.replay 1 "t").on (s.recovered, ∅) = (.ok answer, (t, cache)) ∧
      ∃ x ∈ cache.subject "t" "s", x.id = 2 ∧ x.text = "z" ∧ 1 ≤ x.version) ∧
    ∃ e t, (fetch "t" 0 1).on ((new (.memory ∅) (.database ∅)).attempt
        ⟨.schema "t" "s" "x", [.backendWrite]⟩).2.recovered = (.ok [e], t) ∧
      Record.decode e.key e.value = .ok (.schema "t" "s" "x") := by
  intro as s
  have hplain : ∀ a ∈ as, a.record.Plain := by decide
  have hfew : Record.Few (as.map (·.record)) := .of_length (by decide)
  obtain ⟨d, hbackend, hrow⟩ : ∃ d, s.backend = some (.database d) ∧
      (Backend.database d).HasRow "t" "s" 1 ⟨2, "z"⟩ := ⟨_, rfl, _, rfl, by decide +kernel⟩
  obtain ⟨hwrites, b', hb', -, hrows⟩ := attemptAll_logged .memory .database hplain hfew
  cases hbackend.symm.trans hb'
  obtain ⟨hlogged, -, hreplayed⟩ := hrows "t" "s" (by decide)
  obtain ⟨offset, e, t, hid, hfetch, hdecode⟩ := hlogged 1 ⟨2, "z"⟩ hrow
  obtain rfl : offset = 1 := by
    simp only at hid
    omega
  obtain ⟨answer, t', cache, hreplay, hpresent⟩ := hreplayed 1
  obtain ⟨-, hunkept⟩ := hwrites [] _ _ rfl
  refine ⟨hplain, hfew, ⟨d, hbackend, hrow⟩, ⟨e, t, hfetch, hdecode⟩,
    ⟨answer, t', cache, hreplay, hpresent 1 ⟨2, "z"⟩ hrow⟩, ?_⟩
  exact (hunkept 0 _ _ _ rfl rfl).2

end SchemaRegistry
