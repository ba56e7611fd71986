import SchemaRegistry.Proofs.Cache
import SchemaRegistry.Proofs.Record
import SchemaRegistry.Proofs.Replay

/-!
What is written to a log alone is what a cache has once it has replayed the log: the same schemas
under the same ids, in the same order, and the same levels.
-/

namespace SchemaRegistry

namespace Change

def record : Change → Record
  | schema tenant subject _ text => .schema tenant subject text
  | globalLevel tenant level => .globalConfig tenant level
  | subjectLevel tenant subject level => .subjectConfig tenant subject level
  | user u => .createUser u.name u.token u.admin

theorem record_change (r : Record) (offset : Nat) : (r.change offset).record = r := by
  cases r <;> rfl

def on (stream : String) (changes : List Change) : List Change :=
  changes.filter (·.record.stream = stream)

theorem filterMap_on {α : Type} {f : Change → Option α} {stream : String}
    (h : ∀ change, change.record.stream ≠ stream → f change = none) (changes : List Change) :
    (on stream changes).filterMap f = changes.filterMap f := by
  rw [on, List.filterMap_filter]
  congr 1
  funext change
  split
  · rfl
  · next hother => exact (h change (by simpa using hother)).symm

theorem stored_on (tenant : String) (changes : List Change) :
    stored tenant (on tenant changes) = stored tenant changes := by
  refine filterMap_on (fun change hother => ?_) changes
  cases change with
  | schema => exact if_neg hother
  | globalLevel => rfl
  | subjectLevel => rfl
  | user => rfl

theorem storedIn_on (tenant subject : String) (changes : List Change) :
    storedIn tenant subject (on tenant changes) = storedIn tenant subject changes := by
  rw [storedIn, stored_on, storedIn]

theorem globalLevels_on (tenant : String) (changes : List Change) :
    (on tenant changes).filterMap (globalLevel? tenant) =
      changes.filterMap (globalLevel? tenant) := by
  refine filterMap_on (fun change hother => ?_) changes
  cases change with
  | globalLevel => exact if_neg hother
  | schema => rfl
  | subjectLevel => rfl
  | user => rfl

theorem subjectLevels_on (tenant subject : String) (changes : List Change) :
    (on tenant changes).filterMap (subjectLevel? tenant subject) =
      changes.filterMap (subjectLevel? tenant subject) := by
  refine filterMap_on (fun change hother => ?_) changes
  cases change with
  | subjectLevel => exact if_neg fun h => hother h.1
  | schema => rfl
  | globalLevel => rfl
  | user => rfl

end Change

theorem Entry.decode_of_change? {e : Entry} {change : Change} (h : e.change? = some change) :
    Record.decode e.key e.value = .ok change.record ∧ change.record.change e.offset = change := by
  unfold change? at h
  split at h
  · next record hdecode =>
    cases h
    rw [Change.record_change]
    exact ⟨hdecode, rfl⟩
  · cases h

theorem Cache.Reflects.of_on {c : Cache} {tenant : String} {changes : List Change}
    (h : c.Reflects tenant (Change.on tenant changes)) : c.Reflects tenant changes where
  textOfId := by simpa only [Change.stored_on] using h.textOfId
  versions := by simpa only [Change.storedIn_on] using h.versions
  text := by simpa only [Change.storedIn_on] using h.text
  latest := by simpa only [Change.storedIn_on] using h.latest
  find := by simpa only [Change.storedIn_on] using h.find
  globalLevel := by simpa only [Change.globalLevels_on] using h.globalLevel
  subjectLevel := by simpa only [Change.subjectLevels_on] using h.subjectLevel

namespace MemoryLog

def publish (m : MemoryLog) (r : Record) : MemoryLog := (m.append r.stream r.key r.value).2

def changes : MemoryLog → List Record → List Change
  | _, [] => []
  | m, r :: rs => r.change (m.length r.stream) :: changes (m.publish r) rs

theorem map_record_changes (m : MemoryLog) (rs : List Record) :
    (m.changes rs).map (·.record) = rs := by
  induction rs generalizing m with
  | nil => rfl
  | cons r rs ih => rw [changes, List.map_cons, Change.record_change, ih]

theorem change?_of_record (r : Record) (offset : Nat) :
    (⟨offset, r.key, r.value⟩ : Entry).change? = some (r.change offset) := by
  simp only [Entry.change?, Record.decode_key_value]

theorem length_publish (m : MemoryLog) (r : Record) (stream : String) :
    (m.publish r).length stream =
      if r.stream = stream then m.length stream + 1 else m.length stream := by
  rw [length, publish, records_append]
  by_cases hs : stream = r.stream
  · simp [hs, length]
  · simp [hs, Ne.symm hs, length]

theorem map_change?_entries (m : MemoryLog) (rs : List Record) (stream : String) :
    ((rs.foldl publish m).entries stream).map Entry.change? =
      (m.entries stream).map Entry.change? ++ (Change.on stream (m.changes rs)).map some := by
  induction rs generalizing m with
  | nil => exact (List.append_nil _).symm
  | cons r rs ih =>
    rw [List.foldl_cons, ih, publish, entries_append, changes, Change.on, Change.on,
      List.filter_cons, Change.record_change]
    by_cases hs : stream = r.stream
    · subst hs
      simp [change?_of_record, publish]
    · simp [hs, Ne.symm hs, publish]

theorem filterMap_change? (es : List Entry) :
    es.filterMap Entry.change? = (es.map Entry.change?).filterMap id := by
  rw [List.filterMap_map]
  rfl

theorem filterMap_id_some (changes : List Change) : (changes.map some).filterMap id = changes := by
  rw [List.filterMap_map]
  exact List.filterMap_some

theorem filterMap_entries (m : MemoryLog) (rs : List Record) (stream : String) :
    ((rs.foldl publish m).entries stream).filterMap Entry.change? =
      (m.entries stream).filterMap Entry.change? ++ Change.on stream (m.changes rs) := by
  rw [filterMap_change?, map_change?_entries, List.filterMap_append, ← filterMap_change?,
    filterMap_id_some]

theorem stored?_change {r : Record} {tenant : String} {offset : Nat} {x : Stored}
    (h : Change.stored? tenant (r.change offset) = some x) :
    r.stream = tenant ∧ x.id = Schema.idAt offset := by
  cases r with
  | schema client subject text =>
    obtain ⟨hclient, hx⟩ := Option.ite_none_right_eq_some.1 h
    exact ⟨hclient, (congrArg Stored.id (Option.some.inj hx)).symm⟩
  | globalConfig => cases h
  | subjectConfig => cases h
  | createUser => cases h

theorem ids_changes (m : MemoryLog) (rs : List Record) (tenant : String)
    (hn : m.length tenant + (rs.filter (·.stream = tenant)).length < 0x8000000000000000) :
    (Change.stored tenant (m.changes rs)).Pairwise (·.id < ·.id) ∧
      ∀ x ∈ Change.stored tenant (m.changes rs), (m.length tenant : Int) < x.id := by
  induction rs generalizing m with
  | nil => exact ⟨.nil, by simp [changes, Change.stored]⟩
  | cons r rs ih =>
    have hlength := m.length_publish r tenant
    -- a record of the stream takes one offset, any other none
    have hmore : (m.publish r).length tenant + (rs.filter (·.stream = tenant)).length =
        m.length tenant + ((r :: rs).filter (·.stream = tenant)).length := by
      rw [hlength, List.filter_cons]
      by_cases hr : r.stream = tenant
      · simp only [hr, decide_true, ↓reduceIte, List.length_cons]
        omega
      · simp only [hr, decide_false, ↓reduceIte, Bool.false_eq_true]
    obtain ⟨hordered, habove⟩ := ih (m.publish r) (by omega)
    rw [changes, Change.stored, List.filterMap_cons]
    cases hx : Change.stored? tenant (r.change (m.length r.stream)) with
    | none =>
      refine ⟨hordered, fun y hy => ?_⟩
      have := habove y hy
      split at hlength <;> omega
    | some x =>
      obtain ⟨rfl, hid⟩ := stored?_change hx
      rw [if_pos rfl] at hlength
      rw [Schema.idAt_of_lt (by omega)] at hid
      refine ⟨List.pairwise_cons.2 ⟨fun y hy => ?_, hordered⟩,
        List.forall_mem_cons.2 ⟨?_, fun y hy => ?_⟩⟩
      · have := habove y hy
        omega
      · omega
      · have := habove y hy
        omega

end MemoryLog

def Storage.logOnly (m : MemoryLog) : Storage := ⟨some (.memory m), ∅, none, []⟩

namespace Record

/-- The write that a record is published by, and the change that it makes known: a schema under the
id that is returned for it. -/
def write : Record → Action Storage StorageError Change
  | .schema client subject text => do
    let id ← Storage.storeSchema client subject text
    return .schema client subject id text
  | .globalConfig client level => do
    Storage.setGlobalLevel client level
    return .globalLevel client level
  | .subjectConfig client subject level => do
    Storage.setSubjectLevel client subject level
    return .subjectLevel client subject level
  | .createUser name token admin => do
    Storage.publishUser ⟨name, token, admin⟩
    return .user ⟨name, token, admin⟩

def writeAll : List Record → Action Storage StorageError (List Change)
  | [] => return []
  | r :: rs => do
    let change ← r.write
    let changes ← writeAll rs
    return change :: changes

theorem on_write (m : MemoryLog) (r : Record) :
    r.write.on (Storage.logOnly m) =
      (.ok (r.change (m.length r.stream)), Storage.logOnly (m.publish r)) := by
  cases r with
  | schema client subject text => rfl
  | globalConfig client level => rfl
  | subjectConfig client subject level => rfl
  | createUser name token admin => rfl

theorem on_writeAll (m : MemoryLog) (rs : List Record) :
    (writeAll rs).on (Storage.logOnly m) =
      (.ok (m.changes rs), Storage.logOnly (rs.foldl MemoryLog.publish m)) := by
  induction rs generalizing m with
  | nil => rfl
  | cons r rs ih => simp only [writeAll, Action.on_bind, on_write, ih, Action.on_pure]; rfl

/-- Whatever is written to an empty log, a cache that replays the stream of a tenant answers for it
as the writes say.  A stream has fewer records than there are ids. -/
theorem replay_writeAll (rs : List Record) (batch : Nat) (tenant : String)
    (hn : (rs.filter (·.stream = tenant)).length < 0x8000000000000000) :
    ∃ changes s, (writeAll rs).on (Storage.logOnly ∅) = (.ok changes, s) ∧
      changes.map (·.record) = rs ∧ (Change.stored tenant changes).Pairwise (·.id < ·.id) ∧
      ∃ p cursor cache,
        (Storage.beside.replay batch tenant).on (s, ∅) = (.ok (p, cursor), (s, cache)) ∧
        cache.Reflects tenant changes := by
  have hids := (∅ : MemoryLog).ids_changes rs tenant (by simpa [MemoryLog.length] using hn)
  have hreplay := Storage.replay_beside (s := Storage.logOnly (rs.foldl MemoryLog.publish ∅))
    rfl rfl batch tenant ∅
  have hcache : (∅ : Cache).takeIn ((rs.foldl MemoryLog.publish ∅).entries tenant) =
      (Change.on tenant ((∅ : MemoryLog).changes rs)).foldl Cache.apply ∅ := by
    rw [Cache.takeIn, MemoryLog.filterMap_entries]
    rfl
  refine ⟨_, _, on_writeAll ∅ rs, MemoryLog.map_record_changes ∅ rs, hids.1, _, _, _, hreplay, ?_⟩
  rw [hcache]
  refine Cache.Reflects.of_on (Cache.reflects_replayed ?_)
  rw [Change.stored_on]
  exact hids.1

theorem replay_writeAll_mixed :
    let rs : List Record := [.schema "t" "s" "x", .subjectConfig "t" "s" .full, .schema "u" "s" "z",
      .schema "t" "s" "y"]
    (rs.filter (·.stream = "t")).length < 0x8000000000000000 ∧
    ∃ changes s, (writeAll rs).on (Storage.logOnly ∅) = (.ok changes, s) ∧
      changes = [.schema "t" "s" 1 "x", .subjectLevel "t" "s" .full, .schema "u" "s" 1 "z",
        .schema "t" "s" 3 "y"] ∧
      ∃ p cursor cache,
        (Storage.beside.replay 2 "t").on (s, ∅) = (.ok (p, cursor), (s, cache)) ∧
        cache.view.textOfId? "t" 3 = .ok (some "y") ∧
        cache.view.versions? "t" "s" = .ok (some [1, 2]) ∧
        cache.view.subjectLevel? "t" "s" = .ok (some .full) := by
  intro rs
  have hn : (rs.filter (·.stream = "t")).length < 0x8000000000000000 := by decide
  obtain ⟨changes, s, hwrite, -, -, p, cursor, cache, hreplay, h⟩ := replay_writeAll rs 2 "t" hn
  have hchanges : changes = (∅ : MemoryLog).changes rs := by
    rw [on_writeAll] at hwrite
    exact (Except.ok.inj (congrArg Prod.fst hwrite)).symm
  have hchanges : changes = [.schema "t" "s" 1 "x", .subjectLevel "t" "s" .full,
      .schema "u" "s" 1 "z", .schema "t" "s" 3 "y"] := hchanges.trans (by decide +kernel)
  subst hchanges
  refine ⟨hn, _, s, hwrite, rfl, p, cursor, cache, hreplay, ?_, ?_, ?_⟩
  · exact h.textOfId ⟨"s", 3, "y"⟩ (by decide)
  · exact h.versions "s"
  · exact h.subjectLevel "s"

end Record

end SchemaRegistry
