import SchemaRegistry.Proofs.Replay

/-!
A reader that polls a stream while entries are appended to it.  Its cache is always what the entries
before its cursor lead to, so it does not matter when it polled, how much at a time, or how often it
failed.
-/

namespace SchemaRegistry

structure Follower where
  storage : Storage
  cache : Cache
  cursor : Cursor

/-- What happens to a reader.  From time to time some calls are refused. -/
inductive FollowStep
  | append (stream key : String) (value : Bytes)
  | poll (max : Nat)
  | outages (calls : Outages)
  deriving DecidableEq, Repr

namespace Follower

def start (storage : Storage) (log : MemoryLog) (stream : String) : Follower :=
  ⟨{ storage with log := some (.memory log) }, ∅, .start stream⟩

def poll (f : Follower) (max : Nat) : Except LogError Progress × Follower :=
  match (Storage.beside.poll f.cursor max).on (f.storage, f.cache) with
  | (.ok (p, cursor), (storage, cache)) => (.ok p, ⟨storage, cache, cursor⟩)
  | (.error e, (storage, cache)) => (.error e, ⟨storage, cache, f.cursor⟩)

def step (f : Follower) : FollowStep → Follower
  | .append stream key value =>
    { f with storage := ((Storage.appendEntry stream key value).on f.storage).2 }
  | .poll max => (f.poll max).2
  | .outages calls => { f with storage := { f.storage with outages := calls } }

def after (f : Follower) (steps : List FollowStep) : Follower := steps.foldl step f

def entries (f : Follower) : List Entry :=
  match f.storage.log with
  | some (.memory m) => m.entries f.cursor.stream
  | _ => []

/-- The entries before the cursor have been taken in, and no others. -/
structure Follows (f : Follower) (stream : String) (m : MemoryLog) : Prop where
  log : f.storage.log = some (.memory m)
  reads : f.cursor.stream = stream
  next : f.cursor.next ≤ m.length stream
  cache : f.cache = (∅ : Cache).takeIn ((m.entries stream).take f.cursor.next)

variable {f : Follower} {stream : String} {m : MemoryLog}

theorem follows_start (storage : Storage) (m : MemoryLog) (stream : String) :
    (start storage m stream).Follows stream m where
  log := rfl
  reads := rfl
  next := Nat.zero_le _
  cache := rfl

theorem Follows.entries_eq (h : f.Follows stream m) : f.entries = m.entries stream := by
  simp [entries, h.log, h.reads]

theorem poll_refused (h : f.Follows stream m) (hdown : f.storage.outages.refuse .logFetch = true)
    (max : Nat) : f.poll max = (.error (.io stream .down), f) := by
  have hfetch : (Storage.fetch stream f.cursor.next max).on f.storage =
      (.error (.io stream .down), f.storage) := by
    simp [Storage.fetch, h.log, hdown]
  simp only [poll, Replayer.poll, Action.on_bind, Storage.beside, Action.on_within, h.reads, hfetch]

theorem poll_served (h : f.Follows stream m) (hup : f.storage.outages.refuse .logFetch = false)
    (max : Nat) :
    let batch := ((m.entries stream).drop f.cursor.next).take max
    f.poll max = (.ok (.of batch),
      ⟨f.storage, f.cache.takeIn batch, ⟨stream, f.cursor.next + batch.length⟩⟩) := by
  have hpoll := Replayer.poll_eq (Storage.reads_beside h.log hup) stream f.cursor.next max f.cache
  rw [m.fetch_eq] at hpoll
  rw [poll, show f.cursor = ⟨stream, f.cursor.next⟩ by rw [← h.reads], hpoll]

theorem Follows.poll (h : f.Follows stream m) (max : Nat) : (f.poll max).2.Follows stream m := by
  cases hup : f.storage.outages.refuse .logFetch with
  | true =>
    rw [poll_refused h hup]
    exact h
  | false =>
    rw [poll_served h hup]
    have hnext := h.next
    rw [← m.length_entries] at hnext
    refine ⟨h.log, rfl, ?_, ?_⟩
    · rw [← m.length_entries]
      exact add_length_batch_le hnext max
    · rw [h.cache, ← Cache.takeIn_append, ← take_add_length_batch]

theorem Follows.append (h : f.Follows stream m) (s key : String) (value : Bytes) :
    ∃ m', (f.step (.append s key value)).Follows stream m' := by
  cases hdown : f.storage.outages.refuse .logAppend with
  | true =>
    have hstep : f.step (.append s key value) = f := by
      simp [Follower.step, Storage.appendEntry, h.log, hdown]
    exact ⟨m, by rwa [hstep]⟩
  | false =>
    refine ⟨(m.append s key value).2, ?_⟩
    -- what is in front of the cursor stays there when the stream grows
    have hprefix : m.entries stream <+: (m.append s key value).2.entries stream := by
      rw [m.entries_append]
      split
      · next hs => exact hs ▸ List.prefix_append ..
      · exact List.prefix_refl _
    constructor
    · simp [Follower.step, Storage.appendEntry, h.log, hdown, Log.append]
    · exact h.reads
    · have hgrown := hprefix.length_le
      rw [MemoryLog.length_entries, MemoryLog.length_entries] at hgrown
      exact Nat.le_trans h.next hgrown
    · obtain ⟨more, hmore⟩ := hprefix
      refine h.cache.trans (congrArg _ ?_)
      rw [← hmore]
      exact (List.take_append_of_le_length (by simpa using h.next)).symm

theorem Follows.step (h : f.Follows stream m) (e : FollowStep) :
    ∃ m', (f.step e).Follows stream m' := by
  cases e with
  | append s key value => exact h.append s key value
  | poll max => exact ⟨m, h.poll max⟩
  | outages calls => exact ⟨m, h.log, h.reads, h.next, h.cache⟩

theorem Follows.after (h : f.Follows stream m) (steps : List FollowStep) :
    ∃ m', (f.after steps).Follows stream m' := by
  induction steps generalizing f m with
  | nil => exact ⟨m, h⟩
  | cons e steps ih =>
    obtain ⟨m', h'⟩ := h.step e
    exact ih h'

/-- A reader has taken in the entries before its cursor, at every moment of any run. -/
theorem after_start (storage : Storage) (log : MemoryLog) (stream : String)
    (steps : List FollowStep) :
    let f := (start storage log stream).after steps
    let next := f.cursor.next
    let whole := (∅ : Cache).takeIn f.entries
    let last : Cursor := ⟨stream, f.entries.length⟩
    (next ≤ f.entries.length ∧ f.cache = (∅ : Cache).takeIn (f.entries.take next)) ∧
    -- a poll that fails changes nothing, and any other counts what it passes
    (∀ max, f.storage.outages.refuse .logFetch = true →
      f.poll max = (.error (.io stream .down), f)) ∧
    (∀ max, f.storage.outages.refuse .logFetch = false →
      let batch := (f.entries.drop next).take max
      ∃ f', f.poll max = (.ok (.of batch), f') ∧ f'.storage = f.storage ∧
        f'.cache = f.cache.takeIn batch ∧
        f'.cursor = ⟨stream, next + (Progress.of batch).records⟩) ∧
    -- a replay from the start ends at the end, with what any reader has that is there
    (f.storage.outages.refuse .logFetch = false →
      (∀ batch fuel, f.entries.length < fuel →
        Storage.beside.advance (Nat.max batch 1) fuel (.start stream) (f.storage, ∅) =
          (.of f.entries, last, none, (f.storage, whole))) ∧
      (∀ batch, (Storage.beside.replay batch stream).on (f.storage, ∅) =
        (.ok (.of f.entries, last), (f.storage, whole))) ∧
      (Progress.of f.entries).records = f.entries.length ∧
      (next = f.entries.length → f.cache = whole)) := by
  intro f next whole last
  obtain ⟨m, h⟩ := (follows_start storage log stream).after steps
  have hcache := h.cache
  have hentries : f.entries = m.entries stream := h.entries_eq
  rw [show whole = (∅ : Cache).takeIn f.entries from rfl,
    show last = ⟨stream, f.entries.length⟩ from rfl, hentries, m.length_entries]
  refine ⟨⟨h.next, hcache⟩, fun max hdown => poll_refused h hdown max, ?_, ?_⟩
  · intro max hup batch
    exact ⟨_, poll_served h hup max, rfl, rfl, by rw [Progress.records_of]⟩
  · intro hup
    refine ⟨?_, ?_, ?_, ?_⟩
    · intro batch fuel hfuel
      have hmax : 0 < Nat.max batch 1 := Nat.lt_of_lt_of_le Nat.one_pos (Nat.le_max_right ..)
      exact Replayer.advance_eq (Storage.reads_beside h.log hup) stream hmax fuel 0 ∅
        (Nat.zero_le _) (by omega)
    · intro batch
      exact Storage.replay_beside h.log hup batch stream ∅
    · rw [Progress.records_of, m.length_entries]
    · intro hend
      rw [hcache, List.take_of_length_le]
      rw [m.length_entries]
      exact Nat.le_of_eq hend.symm

end Follower

end SchemaRegistry
