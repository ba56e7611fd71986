import SchemaRegistry.Proofs.Log
import SchemaRegistry.Proofs.LogWriter

/-!
Writes to a storage of which every part can be reached.  A record that the log refuses is nowhere;
any other is in the log under the next offset, and then in the backend.
-/

namespace SchemaRegistry.Storage

def live (l : Log) (c : Cache) (b : Option Backend) : Storage := ⟨some l, c, b, []⟩

/-- What a written change makes of the backend, if there is one.  No backend keeps users. -/
def behind (b : Option Backend) : Change → Answer (Option Backend)
  | .user _ => .ok b
  | change => b.mapM (·.apply change)

@[simp] theorem behind_none (change : Change) : behind none change = .ok none := by
  cases change <;> rfl

variable {l : Log} {c : Cache} {b b' : Option Backend} {m : MemoryLog}

theorem tracks_of_fetch {holds : Log → Prop} (b : Option Backend)
    (hfetch : ∀ {l}, holds l → ∀ stream start max, ∃ l',
      l.fetch stream start max = (.ok (m.fetch stream start max), l') ∧ holds l') :
    toCache.Tracks m fun s c => ∃ l, s = live l c b ∧ holds l where
  fetch := by
    rintro _ c ⟨l, rfl, hl⟩ stream start max
    obtain ⟨l', hfetched, hl'⟩ := hfetch hl stream start max
    exact ⟨live l' c b, by simp [toCache, Storage.fetch, live, Outages.refuse, hfetched], l',
      rfl, hl'⟩
  change := by
    rintro _ c ⟨l, rfl, hl⟩ change
    exact ⟨live l (c.apply change) b, rfl, l, rfl, hl⟩

theorem tracks_live (b : Option Backend) (hn : ∀ stream, m.length stream ≤ Frame.offsets) :
    toCache.Tracks m fun s c => ∃ l, s = live l c b ∧ l.Holds m :=
  tracks_of_fetch b fun hl stream => hl.fetch (hn stream)

theorem tracks_memory (m : MemoryLog) (b : Option Backend) :
    toCache.Tracks m fun s c => ∃ l, s = live l c b ∧ l = .memory m :=
  tracks_of_fetch b fun hl _ _ _ => by
    subst hl
    exact ⟨.memory m, rfl, rfl⟩

theorem changeBackend_live {change : Change} (h : b.mapM (·.apply change) = .ok b') :
    (changeBackend change).on (live l c b) = (.ok (), live l c b') := by
  cases b with
  | none =>
    cases h
    rfl
  | some b =>
    cases happly : b.apply change with
    | error e =>
      rw [Option.mapM_some, happly] at h
      cases h
    | ok d =>
      rw [Option.mapM_some, happly] at h
      cases h
      simp [changeBackend, live, Outages.refuse, happly]

theorem publish_live (l : Log) (c : Cache) (b : Option Backend) (r : Record) :
    (publish r).on (live l c b) =
      ((l.append r.stream r.key r.value).1.map some |>.mapError .log,
        live (l.append r.stream r.key r.value).2 c b) := by
  rw [publish, Action.on_mapError]
  rfl

theorem publish_cases (hl : l.Holds m) {r : Record} (hn : m.length r.stream ≤ Frame.offsets)
    (c : Cache) (b : Option Backend) :
    (∃ l', (publish r).on (live l c b) = (.ok (some (m.length r.stream)), live l' c b) ∧
      l'.Holds (m.publish r)) ∨
    ∃ e l', (publish r).on (live l c b) = (.error e, live l' c b) ∧ l'.Holds m := by
  rw [publish_live]
  rcases hl.append_cases hn r.key r.value with ⟨l', happend, hl'⟩ | ⟨e, l', happend, hl'⟩
  · rw [happend]
    exact .inl ⟨l', rfl, hl'⟩
  · rw [happend]
    exact .inr ⟨.log e, l', rfl, hl'⟩

theorem write_cases (hl : l.Holds m) {r : Record} (hn : m.length r.stream ≤ Frame.offsets)
    (hb : behind b (r.change (m.length r.stream)) = .ok b') (c : Cache) :
    (∃ l', r.write.on (live l c b) = (.ok (r.change (m.length r.stream)), live l' c b') ∧
      l'.Holds (m.publish r)) ∨
    ∃ e l', r.write.on (live l c b) = (.error e, live l' c b) ∧ l'.Holds m := by
  rcases publish_cases hl hn c b with ⟨l', hpublish, hl'⟩ | ⟨e, l', hpublish, hl'⟩
  · refine .inl ⟨l', ?_, hl'⟩
    cases r with
    | schema client subject text =>
      simp only [Record.change] at hb ⊢
      simp only [Record.write, storeSchema, Action.on_bind, hpublish, Action.on_mapError]
      rw [idOf, changeBackend_live hb]
      rfl
    | globalConfig client level =>
      simp only [Record.change] at hb ⊢
      simp only [Record.write, setGlobalLevel, Action.on_bind, hpublish, Action.on_mapError]
      rw [changeBackend_live hb]
      rfl
    | subjectConfig client subject level =>
      simp only [Record.change] at hb ⊢
      simp only [Record.write, setSubjectLevel, Action.on_bind, hpublish, Action.on_mapError]
      rw [changeBackend_live hb]
      rfl
    | createUser name token admin =>
      cases hb
      simp only [Record.write, publishUser, Action.on_bind, hpublish]
      rfl
  · refine .inr ⟨e, l', ?_, hl'⟩
    cases r with
    | schema => simp only [Record.write, storeSchema, Action.on_bind, hpublish]
    | globalConfig => simp only [Record.write, setGlobalLevel, Action.on_bind, hpublish]
    | subjectConfig => simp only [Record.write, setSubjectLevel, Action.on_bind, hpublish]
    | createUser => simp only [Record.write, publishUser, Action.on_bind, hpublish]

end SchemaRegistry.Storage
