import SchemaRegistry.Proofs.MemoryLog
import SchemaRegistry.Replay

/-!
Replay takes in the entries of a stream one by one, each under its own offset, however they are
split into batches.  Entries that cannot be decoded are counted and left out.
-/

namespace SchemaRegistry

def Entry.change? (e : Entry) : Option Change :=
  match Record.decode e.key e.value with
  | .ok record => some (record.change e.offset)
  | .error _ => none

def Cache.takeIn (c : Cache) (es : List Entry) : Cache := (es.filterMap Entry.change?).foldl apply c

theorem Cache.takeIn_append (c : Cache) (es fs : List Entry) :
    c.takeIn (es ++ fs) = (c.takeIn es).takeIn fs := by
  rw [takeIn, List.filterMap_append, List.foldl_append]
  rfl

theorem Cache.takeIn_cons (c : Cache) (e : Entry) (es : List Entry) :
    c.takeIn (e :: es) = (c.takeIn [e]).takeIn es :=
  c.takeIn_append [e] es

namespace Progress

def of (es : List Entry) : Progress :=
  ⟨es.countP (·.change?.isSome), es.countP (·.change?.isNone)⟩

theorem of_cons (e : Entry) (es : List Entry) :
    of (e :: es) = (of es).count e.change?.isSome := by
  cases h : e.change? <;> simp [of, count, h]

theorem of_append (es fs : List Entry) : of (es ++ fs) = (of es).add (of fs) := by
  simp only [of, add, List.countP_append]

@[simp] theorem records_of (es : List Entry) : (of es).records = es.length := by
  induction es with
  | nil => rfl
  | cons e es ih =>
    simp only [records] at ih
    rw [of_cons, List.length_cons, ← ih]
    cases e.change?.isSome with
    | true => exact Nat.add_right_comm ..
    | false => rfl

end Progress

namespace Replayer

variable {σ : Type}

/-- A replayer that can always read this log, and puts all changes into one cache: the one that its
state holds. -/
structure Tracks (r : Replayer σ) (m : MemoryLog) (holds : σ → Cache → Prop) : Prop where
  fetch : ∀ {s c}, holds s c → ∀ stream start max, ∃ s',
    (r.fetch stream start max).on s = (.ok (m.fetch stream start max), s') ∧ holds s' c
  change : ∀ {s c}, holds s c → ∀ change, ∃ s',
    (r.change change).on s = (.ok (), s') ∧ holds s' (c.apply change)

section

variable {r : Replayer σ} {m : MemoryLog} {holds : σ → Cache → Prop} {s : σ} {c : Cache}

theorem Tracks.applyEntry (h : r.Tracks m holds) (hs : holds s c) (e : Entry) :
    ∃ s', r.applyEntry s e = (e.change?.isSome, s') ∧ holds s' (c.takeIn [e]) := by
  unfold Replayer.applyEntry Cache.takeIn Entry.change?
  cases hd : Record.decode e.key e.value with
  | error => exact ⟨s, rfl, by simpa [hd] using hs⟩
  | ok record =>
    obtain ⟨s', hchange, hs'⟩ := h.change hs (record.change e.offset)
    exact ⟨s', by simp [hchange], by simpa [hd] using hs'⟩

theorem Tracks.applyBatch (h : r.Tracks m holds) (hs : holds s c) (n : Nat)
    (rs : List (String × Bytes)) (stream : String) :
    ∃ s', r.applyBatch (MemoryLog.numbered n rs) ⟨stream, n⟩ s =
        (.of (MemoryLog.numbered n rs), ⟨stream, n + rs.length⟩, s') ∧
      holds s' (c.takeIn (MemoryLog.numbered n rs)) := by
  induction rs generalizing n s c with
  | nil => exact ⟨s, rfl, hs⟩
  | cons x rs ih =>
    obtain ⟨s₁, hfirst, hs₁⟩ := h.applyEntry hs ⟨n, x.1, x.2⟩
    obtain ⟨s₂, hrest, hs₂⟩ := ih hs₁ (n + 1)
    refine ⟨s₂, ?_, ?_⟩
    · simp only [MemoryLog.numbered, Replayer.applyBatch, hfirst, hrest]
      rw [Progress.of_cons, List.length_cons, Nat.add_right_comm, Nat.add_assoc]
    · rw [MemoryLog.numbered, c.takeIn_cons _ (MemoryLog.numbered (n + 1) rs)]
      exact hs₂

theorem Tracks.poll (h : r.Tracks m holds) (hs : holds s c) (stream : String) (n max : Nat) :
    ∃ s', (r.poll ⟨stream, n⟩ max).on s =
        (.ok (.of (m.fetch stream n max), ⟨stream, n + (m.fetch stream n max).length⟩), s') ∧
      holds s' (c.takeIn (m.fetch stream n max)) := by
  obtain ⟨s₁, hfetch, hs₁⟩ := h.fetch hs stream n max
  obtain ⟨s₂, hbatch, hs₂⟩ := h.applyBatch hs₁ n (((m.records stream).drop n).take max) stream
  refine ⟨s₂, ?_, hs₂⟩
  rw [Replayer.poll, Action.on_bind, hfetch]
  simp only [Action.on_of]
  rw [MemoryLog.fetch, hbatch, MemoryLog.length_numbered]

theorem Tracks.advance (h : r.Tracks m holds) (hs : holds s c) (stream : String) {max : Nat}
    (hmax : 0 < max) (fuel n : Nat) (hn : n ≤ m.length stream)
    (hfuel : m.length stream < n + fuel) :
    ∃ s', r.advance max fuel ⟨stream, n⟩ s =
        (.of ((m.entries stream).drop n), ⟨stream, m.length stream⟩, none, s') ∧
      holds s' (c.takeIn ((m.entries stream).drop n)) := by
  induction fuel generalizing n s c with
  | zero => omega
  | succ fuel ih =>
    have hlength := m.length_fetch stream n max
    obtain ⟨s₁, hpoll, hs₁⟩ := h.poll hs stream n max
    simp only [Replayer.advance, hpoll, Progress.records_of]
    split
    · next hnone =>
      -- an empty batch: the cursor is at the end
      have hend : n = m.length stream := by omega
      have hdrop : (m.entries stream).drop n = [] := List.drop_of_length_le (by simp [hend])
      have hbatch : m.fetch stream n max = [] := by rw [m.fetch_eq, hdrop, List.take_nil]
      rw [hbatch] at hs₁ ⊢
      rw [hdrop, List.length_nil, Nat.add_zero, hend]
      exact ⟨s₁, rfl, hs₁⟩
    · next hsome =>
      -- what is left is this batch and what is behind it
      obtain ⟨s₂, hadvance, hs₂⟩ := ih hs₁ (n + (m.fetch stream n max).length) (by omega) (by omega)
      have hrest : (m.entries stream).drop n = m.fetch stream n max ++
          (m.entries stream).drop (n + (m.fetch stream n max).length) := by
        conv => rhs; arg 1; rw [m.fetch_eq_take]
        rw [← List.drop_drop, List.take_append_drop]
      rw [hadvance, hrest, Progress.of_append, Cache.takeIn_append]
      exact ⟨s₂, rfl, hs₂⟩

end

/-- A replayer that can always read this log, where no state but the cache is changed by reading or
by changes. -/
structure Reads (r : Replayer σ) (m : MemoryLog) (state : Cache → σ) : Prop where
  fetch : ∀ stream start max c,
    (r.fetch stream start max).on (state c) = (.ok (m.fetch stream start max), state c)
  change : ∀ change c, (r.change change).on (state c) = (.ok (), state (c.apply change))

variable {r : Replayer σ} {m : MemoryLog} {state : Cache → σ}

theorem Reads.tracks (h : r.Reads m state) : r.Tracks m fun s c => s = state c where
  fetch hs stream start max := ⟨_, hs ▸ h.fetch stream start max _, rfl⟩
  change hs change := ⟨_, hs ▸ h.change change _, rfl⟩

theorem poll_eq (h : r.Reads m state) (stream : String) (n max : Nat) (c : Cache) :
    (r.poll ⟨stream, n⟩ max).on (state c) =
      (.ok (.of (m.fetch stream n max), ⟨stream, n + (m.fetch stream n max).length⟩),
        state (c.takeIn (m.fetch stream n max))) := by
  obtain ⟨_, hpoll, rfl⟩ := h.tracks.poll rfl stream n max
  exact hpoll

theorem advance_eq (h : r.Reads m state) (stream : String) {max : Nat} (hmax : 0 < max)
    (fuel n : Nat) (c : Cache) (hn : n ≤ m.length stream) (hfuel : m.length stream < n + fuel) :
    r.advance max fuel ⟨stream, n⟩ (state c) =
      (.of ((m.entries stream).drop n), ⟨stream, m.length stream⟩, none,
        state (c.takeIn ((m.entries stream).drop n))) := by
  obtain ⟨_, hadvance, rfl⟩ := h.tracks.advance rfl stream hmax fuel n hn hfuel
  exact hadvance

end Replayer

namespace Storage

theorem fetch_memory {s : Storage} {m : MemoryLog} (hlog : s.log = some (.memory m))
    (hup : s.outages.refuse .logFetch = false) (stream : String) (start max : Nat) :
    (fetch stream start max).on s = (.ok (m.fetch stream start max), s) := by
  obtain ⟨log, cache, backend, outages⟩ := s
  cases hlog
  simp [fetch, hup, Log.fetch]

theorem reads_beside {s : Storage} {m : MemoryLog} (hlog : s.log = some (.memory m))
    (hup : s.outages.refuse .logFetch = false) : beside.Reads m fun c => (s, c) where
  fetch stream start max c := by simp [beside, fetch_memory hlog hup]
  change _ _ := rfl

theorem replay_beside {s : Storage} {m : MemoryLog} (hlog : s.log = some (.memory m))
    (hup : s.outages.refuse .logFetch = false) (max : Nat) (stream : String) (c : Cache) :
    (beside.replay max stream).on (s, c) =
      (.ok (.of (m.entries stream), ⟨stream, m.length stream⟩),
        (s, c.takeIn (m.entries stream))) := by
  have hbound : beside.bound stream (s, c) = m.length stream := by
    simp [beside, bound, hlog, Log.bound, Log.endOffset]
  have hadvance := Replayer.advance_eq (reads_beside hlog hup) stream
    (Nat.lt_of_lt_of_le Nat.one_pos (Nat.le_max_right max 1)) (m.length stream + 1) 0 c
    (Nat.zero_le _) (by omega)
  rw [List.drop_zero] at hadvance
  simp only [Replayer.replay, Action.on_of, Replayer.toEnd, Cursor.start, hbound]
  rw [hadvance]

end Storage

end SchemaRegistry
