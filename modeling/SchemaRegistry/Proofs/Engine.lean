import SchemaRegistry.Engine
import SchemaRegistry.Proofs.Streams

/-!
An engine at work.  Streams are watched, readers take turns, all of them are stopped, and records
are written meanwhile.  No stream ever has two readers.  A new reader begins at the start of its
stream and takes in what it passes, whatever the readers before it have taken in: the cache is that
of all of their laps, one behind the other.
-/

namespace SchemaRegistry

open Cache (of)

namespace Replayer

variable {σ : Type} {r : Replayer σ}

theorem stream_applyBatch (r : Replayer σ) (es : List Entry) (c : Cursor) (s : σ) :
    (r.applyBatch es c s).2.1.stream = c.stream := by
  induction es generalizing c s with
  | nil => rfl
  | cons e es ih => exact ih { c with next := e.offset + 1 } _

theorem stream_poll {c c' : Cursor} {max : Nat} {s s' : σ} {p : Progress}
    (h : (r.poll c max).on s = (.ok (p, c'), s')) : c'.stream = c.stream := by
  obtain ⟨batch, t, -, happly⟩ := Action.on_bind_eq_ok.1 h
  have hcursor := stream_applyBatch r batch c t
  simp only [Action.on_of, Prod.mk.injEq, Except.ok.injEq] at happly
  rwa [← happly.1.2]

end Replayer

namespace Engine

theorem isWatching_watch (e : Engine) (stream other : String) :
    (e.watch stream).isWatching other = (e.isWatching other || stream = other) := by
  rw [watch]
  split
  · next hwatching =>
    by_cases hother : stream = other
    · rw [← hother, hwatching, Bool.true_or]
    · rw [decide_eq_false hother, Bool.or_false]
  · simp [isWatching, Cursor.start]

theorem isWatching_iff {e : Engine} {stream : String} :
    e.isWatching stream = true ↔ stream ∈ e.cursors.map (·.stream) := by
  simp [isWatching]

variable {cursors : List Cursor} {i : Nat} {c c' : Cursor}

theorem streams_set (hget : cursors[i]? = some c) (hstream : c'.stream = c.stream) :
    (cursors.set i c').map (·.stream) = cursors.map (·.stream) := by
  have hsame : (cursors.map (·.stream))[i]? = some c'.stream := by
    rw [List.getElem?_map, hget, hstream]
    rfl
  obtain ⟨hi, hsame⟩ := List.getElem?_eq_some_iff.1 hsame
  rw [List.map_set, ← hsame, List.set_getElem_self]

theorem mem_set (honce : (cursors.map (·.stream)).Nodup) (hget : cursors[i]? = some c) {d : Cursor}
    (hd : d ∈ cursors.set i c') (hstream : c'.stream = c.stream) :
    d = c' ∨ d ∈ cursors ∧ d.stream ≠ c'.stream := by
  by_cases hsame : d.stream = c'.stream
  · obtain ⟨hi, -⟩ := List.getElem?_eq_some_iff.1 hget
    rw [← streams_set hget hstream] at honce
    exact .inl (List.inj_on_of_nodup_map honce hd (List.mem_set hi _) hsame)
  · rcases List.mem_or_eq_of_mem_set hd with hd | rfl
    · exact .inr ⟨hd, hsame⟩
    · exact absurd rfl hsame

end Engine

structure Replaying where
  storage : Storage
  engine : Engine

namespace Replaying

inductive Step
  | write (r : Record)
  | watch (stream : String)
  | turn (i : Nat)
  | settle
  | shutdown
  deriving DecidableEq

def Step.record? : Step → Option Record
  | write r => some r
  | _ => none

def start (l : Log) (batch : Nat) : Replaying := ⟨.live l ∅ none, .new batch⟩

def turn (w : Replaying) (i : Nat) : Replaying :=
  match w.engine.cursors[i]? with
  | none => w
  | some cursor =>
    match (Storage.toCache.poll cursor (Nat.max w.engine.batch 1)).on w.storage with
    | (.ok (_, cursor), storage) =>
      ⟨storage, { w.engine with cursors := w.engine.cursors.set i cursor }⟩
    | (.error _, storage) => ⟨storage, w.engine⟩

/-- Take a step.  A write that fails leaves what there is. -/
def step (w : Replaying) : Step → Replaying
  | .write r => ⟨(r.write.on w.storage).2, w.engine⟩
  | .watch stream => ⟨w.storage, w.engine.watch stream⟩
  | .turn i => w.turn i
  | .settle =>
    let (engine, storage) := w.engine.settle w.storage
    ⟨storage, engine⟩
  | .shutdown => ⟨w.storage, w.engine.shutdown⟩

def launches (w : Replaying) (stream : String) : Step → Nat
  | .watch s => if s = stream ∧ w.engine.isWatching s = false then 1 else 0
  | _ => 0

def starts (w : Replaying) (stream : String) : List Step → Nat
  | [] => 0
  | step :: steps => w.launches stream step + starts (w.step step) stream steps

theorem turn_eq (batch : Nat) (front back : List Cursor) (c : Cursor) (s : Storage) :
    turn ⟨s, ⟨batch, front ++ c :: back⟩⟩ front.length =
      match (Storage.toCache.poll c (Nat.max batch 1)).on s with
      | (.ok (_, c'), s') => ⟨s', ⟨batch, front ++ c' :: back⟩⟩
      | (.error _, s') => ⟨s', ⟨batch, front ++ c :: back⟩⟩ := by
  have hget : (front ++ c :: back)[front.length]? = some c := by simp
  simp only [turn, hget, List.set_append_right, Nat.le_refl, Nat.sub_self, List.set_cons_zero]

theorem advance_turns (batch : Nat) (front back : List Cursor) (fuel : Nat) (c : Cursor)
    (s : Storage) :
    let (_, c', _, s') := Storage.toCache.advance (Nat.max batch 1) fuel c s
    ∃ n, (List.replicate n front.length).foldl turn ⟨s, ⟨batch, front ++ c :: back⟩⟩ =
      ⟨s', ⟨batch, front ++ c' :: back⟩⟩ := by
  induction fuel generalizing c s with
  | zero => exact ⟨0, rfl⟩
  | succ fuel ih =>
    have hturn := turn_eq batch front back c s
    rw [Replayer.advance]
    cases hpoll : (Storage.toCache.poll c (Nat.max batch 1)).on s with
    | mk result s' =>
      rw [hpoll] at hturn
      cases result with
      | error e => exact ⟨1, hturn⟩
      | ok polled =>
        simp only at hturn ⊢
        split
        · exact ⟨1, hturn⟩
        · obtain ⟨n, hrest⟩ := ih polled.2 s'
          refine ⟨n + 1, ?_⟩
          rw [List.replicate_succ, List.foldl_cons, hturn, hrest]

theorem settleAll_turns (batch : Nat) (front cursors : List Cursor) (s : Storage) :
    let (cursors', s') := Engine.settleAll batch cursors s
    ∃ turns : List Nat, turns.foldl turn ⟨s, ⟨batch, front ++ cursors⟩⟩ =
      ⟨s', ⟨batch, front ++ cursors'⟩⟩ := by
  induction cursors generalizing front s with
  | nil => exact ⟨[], rfl⟩
  | cons c cursors ih =>
    obtain ⟨n, hfirst⟩ :=
      advance_turns batch front cursors (Storage.toCache.bound c.stream s + 1) c s
    rw [Engine.settleAll, Replayer.toEnd]
    obtain ⟨turns, hrest⟩ := ih (front ++ [_]) _
    refine ⟨List.replicate n front.length ++ turns, ?_⟩
    rw [List.foldl_append, hfirst]
    rw [List.append_assoc, List.append_assoc] at hrest
    exact hrest

theorem settle_turns (w : Replaying) : ∃ turns : List Nat, turns.foldl turn w = w.step .settle :=
  settleAll_turns w.engine.batch [] w.engine.cursors w.storage

theorem streams_turn (w : Replaying) (i : Nat) :
    (w.turn i).engine.cursors.map (·.stream) = w.engine.cursors.map (·.stream) := by
  rw [turn]
  split
  · rfl
  · next cursor hget =>
    split
    · next hpoll => exact Engine.streams_set hget (Replayer.stream_poll hpoll)
    · rfl

/-- What the log holds has been taken in lap by lap, each lap from the start of its stream. -/
structure Follows (w : Replaying) (rs : List Record) (laps : String → List Nat) : Prop where
  storage : ∃ l, w.storage = .live l w.storage.cache none ∧ l.Holds (.of rs)
  once : (w.engine.cursors.map (·.stream)).Nodup
  passed : ∀ stream, ∀ n ∈ laps stream, n ≤ (MemoryLog.of rs).length stream
  last : ∀ c ∈ w.engine.cursors, (laps c.stream).getLast? = some c.next
  cache : ∃ taken, w.storage.cache = of taken ∧ ∀ stream, Change.on stream taken =
    (laps stream).flatMap ((Change.on stream (Change.of rs)).take ·)

variable {w : Replaying} {rs : List Record} {laps : String → List Nat}

theorem follows_start {l : Log} (h : l.New) (batch : Nat) :
    (start l batch).Follows [] fun _ => [] where
  storage := ⟨l, rfl, h.holds⟩
  once := .nil
  passed _ _ h := absurd h List.not_mem_nil
  last _ h := absurd h List.not_mem_nil
  cache := ⟨[], rfl, fun _ => rfl⟩

theorem Follows.write (h : w.Follows rs laps) (hn : Record.Addressable rs) (r : Record) :
    ∃ more, more.Sublist [r] ∧ (w.step (.write r)).Follows (rs ++ more) laps := by
  obtain ⟨l, hstorage, hl⟩ := h.storage
  obtain ⟨taken, hcache, htaken⟩ := h.cache
  obtain ⟨more, l', hmore, hl', hwrite⟩ := Storage.write_live hl hn r w.storage.cache
  refine ⟨more, hmore, ?_⟩
  rw [step, hstorage, hwrite]
  refine ⟨⟨l', rfl, hl'⟩, h.once, fun stream n hlap => ?_, h.last, taken, hcache, fun stream => ?_⟩
  · exact (h.passed stream n hlap).trans (MemoryLog.length_of_le_append rs more stream)
  · rw [htaken, List.flatMap_def, List.flatMap_def]
    congr 1
    refine List.map_congr_left fun n hlap => ?_
    exact (MemoryLog.take_on_append (h.passed stream n hlap) more).symm

theorem Follows.lap (h : w.Follows rs laps) {l : Log} {engine : Engine} {stream : String}
    {done : List Nat} {next : Nat} {batch : List Change} (hl : l.Holds (.of rs))
    (honce : (engine.cursors.map (·.stream)).Nodup)
    (hreaders : ∀ c ∈ engine.cursors,
      c = ⟨stream, next⟩ ∨ c ∈ w.engine.cursors ∧ c.stream ≠ stream)
    (hdone : ∀ n ∈ done, n ∈ laps stream) (hnext : next ≤ (MemoryLog.of rs).length stream)
    (hbatch : ∀ change ∈ batch, change.record.stream = stream)
    (hlap : (done ++ [next]).flatMap ((Change.on stream (Change.of rs)).take ·) =
      (laps stream).flatMap ((Change.on stream (Change.of rs)).take ·) ++ batch) :
    (Replaying.mk (.live l (batch.foldl Cache.apply w.storage.cache) none) engine).Follows rs
      fun s => if s = stream then done ++ [next] else laps s := by
  obtain ⟨taken, hcache, htaken⟩ := h.cache
  refine ⟨⟨l, rfl, hl⟩, honce, fun s n hn => ?_, fun c hc => ?_, taken ++ batch, ?_, fun s => ?_⟩
  · split at hn
    · next hs =>
      subst hs
      rcases List.mem_append.1 hn with hn | hn
      · exact h.passed s n (hdone n hn)
      · cases List.mem_singleton.1 hn
        exact hnext
    · exact h.passed s n hn
  · rcases hreaders c hc with rfl | ⟨hc, hother⟩
    · simp
    · rw [if_neg hother]
      exact h.last c hc
  · simp only [Storage.live]
    rw [Cache.of_append, ← hcache]
  · rw [Change.on_append, htaken, Change.on_of_forall hbatch]
    split
    · next hs =>
      subst hs
      exact hlap.symm
    · exact List.append_nil _

theorem Follows.launch (h : w.Follows rs laps) {stream : String}
    (hidle : w.engine.isWatching stream = false) :
    (w.step (.watch stream)).Follows rs fun s =>
      if s = stream then laps stream ++ [0] else laps s := by
  obtain ⟨l, hstorage, hl⟩ := h.storage
  have hnone : stream ∉ w.engine.cursors.map (·.stream) := by
    rw [← Engine.isWatching_iff, hidle]
    exact Bool.false_ne_true
  have hwatch : w.step (.watch stream) = ⟨.live l w.storage.cache none,
      ⟨w.engine.batch, w.engine.cursors ++ [.start stream]⟩⟩ := by
    rw [step, Engine.watch, hidle, ← hstorage]
    rfl
  rw [hwatch]
  refine h.lap hl ?_ (fun c hc => ?_) (fun _ hn => hn) (Nat.zero_le _) (List.forall_mem_nil _)
    (by simp)
  · rw [List.map_append, List.nodup_append]
    refine ⟨h.once, List.nodup_singleton _, fun a ha b hb hab => hnone ?_⟩
    rw [hab, List.mem_singleton.1 hb] at ha
    exact ha
  · rcases List.mem_append.1 hc with hc | hc
    · exact .inr ⟨hc, fun heq => hnone (heq ▸ List.mem_map_of_mem hc)⟩
    · exact .inl (List.mem_singleton.1 hc)

theorem Follows.watch (h : w.Follows rs laps) (stream : String) :
    ∃ laps', (∀ s, (laps' s).length = (laps s).length + w.launches s (.watch stream)) ∧
      (w.step (.watch stream)).Follows rs laps' := by
  cases hidle : w.engine.isWatching stream with
  | true =>
    have hsame : w.step (.watch stream) = w := by
      rw [step, Engine.watch, hidle]
      rfl
    exact ⟨laps, fun s => by simp [launches, hidle], hsame.symm ▸ h⟩
  | false =>
    refine ⟨_, fun s => ?_, h.launch hidle⟩
    by_cases hs : s = stream
    · simp [launches, hidle, hs]
    · simp [launches, hs, Ne.symm hs]

theorem Follows.shutdown (h : w.Follows rs laps) : (w.step .shutdown).Follows rs laps where
  storage := h.storage
  once := .nil
  passed := h.passed
  last _ h := absurd h List.not_mem_nil
  cache := h.cache

theorem Follows.turn (h : w.Follows rs laps) (hn : Record.Addressable rs) (i : Nat) :
    ∃ laps', (∀ stream, (laps' stream).length = (laps stream).length) ∧
      (w.turn i).Follows rs laps' := by
  cases hget : w.engine.cursors[i]? with
  | none =>
    refine ⟨laps, fun _ => rfl, ?_⟩
    simp only [Replaying.turn, hget]
    exact h
  | some cursor =>
    obtain ⟨stream, next⟩ := cursor
    obtain ⟨l, hstorage, hl⟩ := h.storage
    obtain ⟨done, hdone⟩ := List.getLast?_eq_some_iff.1 (h.last _ (List.mem_of_getElem? hget))
    obtain ⟨p, l', hl', hpoll⟩ := Storage.poll_live hl hn.offsets stream next
      (Nat.max w.engine.batch 1) w.storage.cache none
    generalize hbatch :
      ((Change.on stream (Change.of rs)).drop next).take (Nat.max w.engine.batch 1) = batch at hpoll
    simp only at hdone hpoll
    rw [← hstorage] at hpoll
    have hturn : w.turn i = ⟨.live l' (batch.foldl Cache.apply w.storage.cache) none,
        ⟨w.engine.batch, w.engine.cursors.set i ⟨stream, next + batch.length⟩⟩⟩ := by
      simp only [Replaying.turn, hget, hpoll]
    have honce : ((w.turn i).engine.cursors.map (·.stream)).Nodup := by
      rw [streams_turn]
      exact h.once
    rw [hturn] at honce ⊢
    have hnext : next + batch.length ≤ (MemoryLog.of rs).length stream := by
      have hpassed := h.passed stream next (by simp [hdone])
      rw [MemoryLog.length_of] at hpassed ⊢
      exact hbatch ▸ add_length_batch_le hpassed _
    have hstream : ∀ change ∈ batch, change.record.stream = stream := fun change hchange => by
      rw [← hbatch] at hchange
      exact Change.stream_of_mem_on (List.mem_of_mem_drop (List.mem_of_mem_take hchange))
    have hlap : (done ++ [next + batch.length]).flatMap ((Change.on stream (Change.of rs)).take ·) =
        (laps stream).flatMap ((Change.on stream (Change.of rs)).take ·) ++ batch := by
      simp only [hdone, List.flatMap_append, List.flatMap_singleton, List.append_assoc]
      rw [← hbatch, take_add_length_batch]
    refine ⟨_, fun s => ?_, h.lap hl' honce (fun c hc => Engine.mem_set h.once hget hc rfl)
      (fun n hn => ?_) hnext hstream hlap⟩
    · split
      · next hs => simp [hs, hdone]
      · rfl
    · simp [hdone, hn]

theorem Follows.turns (h : w.Follows rs laps) (hn : Record.Addressable rs) (turns : List Nat) :
    ∃ laps', (∀ stream, (laps' stream).length = (laps stream).length) ∧
      (turns.foldl Replaying.turn w).Follows rs laps' := by
  induction turns generalizing w laps with
  | nil => exact ⟨laps, fun _ => rfl, h⟩
  | cons i turns ih =>
    obtain ⟨laps₁, hlength₁, h₁⟩ := h.turn hn i
    obtain ⟨laps₂, hlength₂, h₂⟩ := ih h₁
    exact ⟨laps₂, fun stream => (hlength₂ stream).trans (hlength₁ stream), h₂⟩

theorem Follows.step (h : w.Follows rs laps) (step : Step) (hn : Record.Addressable rs) :
    ∃ more laps', more.Sublist step.record?.toList ∧
      (∀ stream, (laps' stream).length = (laps stream).length + w.launches stream step) ∧
      (w.step step).Follows (rs ++ more) laps' := by
  have hrs : rs ++ [] = rs := List.append_nil rs
  cases step with
  | write r =>
    obtain ⟨more, hmore, h'⟩ := h.write hn r
    exact ⟨more, laps, hmore, fun _ => rfl, h'⟩
  | watch stream =>
    obtain ⟨laps', hlength, h'⟩ := h.watch stream
    exact ⟨[], laps', List.nil_sublist _, hlength, hrs.symm ▸ h'⟩
  | turn i =>
    obtain ⟨laps', hlength, h'⟩ := h.turn hn i
    exact ⟨[], laps', List.nil_sublist _, hlength, hrs.symm ▸ h'⟩
  | settle =>
    obtain ⟨turns, hturns⟩ := w.settle_turns
    obtain ⟨laps', hlength, h'⟩ := h.turns hn turns
    exact ⟨[], laps', List.nil_sublist _, hlength, hrs.symm ▸ hturns ▸ h'⟩
  | shutdown => exact ⟨[], laps, List.nil_sublist _, fun _ => rfl, hrs.symm ▸ h.shutdown⟩

theorem Follows.run (h : w.Follows rs laps) (steps : List Step)
    (hn : Record.Addressable (rs ++ steps.filterMap Step.record?)) :
    ∃ more laps', more.Sublist (steps.filterMap Step.record?) ∧
      (∀ stream, (laps' stream).length = (laps stream).length + w.starts stream steps) ∧
      (steps.foldl Replaying.step w).Follows (rs ++ more) laps' := by
  induction steps generalizing w rs laps with
  | nil => exact ⟨[], laps, List.Sublist.refl _, fun _ => rfl, (List.append_nil rs).symm ▸ h⟩
  | cons first steps ih =>
    rw [filterMap_cons_toList] at hn ⊢
    obtain ⟨more, laps₁, hmore, hlength₁, h₁⟩ :=
      h.step first (hn.sublist (List.sublist_append_left ..))
    rw [← List.append_assoc] at hn
    obtain ⟨rest, laps₂, hrest, hlength₂, h₂⟩ :=
      ih h₁ (hn.sublist ((hmore.append_left rs).append_right _))
    refine ⟨more ++ rest, laps₂, hmore.append hrest, fun stream => ?_, ?_⟩
    · rw [hlength₂, hlength₁, starts, Nat.add_assoc]
    · rwa [← List.append_assoc]

theorem Follows.sameShare (h : w.Follows rs laps) (tenant : String) :
    w.storage.cache.SameShare ((∅ : Cache).takeIn
      ((laps tenant).flatMap ((MemoryLog.of rs).entries tenant).take)) tenant := by
  obtain ⟨taken, hcache, htaken⟩ := h.cache
  have hshare := Cache.sameShare_on tenant taken
  rw [← hcache, htaken] at hshare
  rw [Cache.takeIn, List.filterMap_flatMap]
  simp only [MemoryLog.filterMap_take]
  exact hshare

end Replaying

end SchemaRegistry
