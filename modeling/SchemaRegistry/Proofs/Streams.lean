import SchemaRegistry.Proofs.Durable

/-!
A registry with a log and a cache, whose streams are replayed apart from each other.  A cache is
given by what it took in of each stream, whatever the order among the streams: a record of one
stream says nothing of another's tenant.
-/

namespace SchemaRegistry

theorem Table.insert_ne_empty {α : Type} (t : Table α) (key : String) (value : α) :
    t.insert key value ≠ ∅ := by
  intro h
  have hget := t.get?_insert_self key value
  rw [h, get?_empty] at hget
  cases hget

theorem Option.eq_of_getD_eq {α : Type} {o o' : Option α} {a : α} (h : o.getD a = o'.getD a)
    (ho : o ≠ some a) (ho' : o' ≠ some a) : o = o' := by
  cases o with
  | none =>
    cases o' with
    | none => rfl
    | some b => exact absurd (congrArg some h.symm) ho'
  | some b =>
    cases o' with
    | none => exact absurd (congrArg some h) ho
    | some b' => exact congrArg some h

theorem filterMap_cons_toList {α β : Type} (f : α → Option β) (a : α) (as : List α) :
    (a :: as).filterMap f = (f a).toList ++ as.filterMap f := by
  rw [List.filterMap_cons]
  cases f a <;> rfl

namespace Cache

/-- No tenant has an entry without having schemas or levels there. -/
structure Stocked (c : Cache) : Prop where
  schemas : ∀ tenant, c.schemas.get? tenant ≠ some ∅
  levels : ∀ tenant, c.subjectLevels.get? tenant ≠ some ∅

theorem Stocked.apply {c : Cache} (h : c.Stocked) (change : Change) : (c.apply change).Stocked := by
  cases change with
  | schema t s id text =>
    refine ⟨fun tenant => ?_, h.levels⟩
    simp only [Cache.apply, addSchema, Table.get?_insert]
    split
    · exact fun heq => Table.insert_ne_empty _ _ _ (Option.some.inj heq)
    · exact h.schemas tenant
  | globalLevel => exact ⟨h.schemas, h.levels⟩
  | subjectLevel t s level =>
    refine ⟨h.schemas, fun tenant => ?_⟩
    simp only [Cache.apply, setSubjectLevel, Table.get?_insert]
    split
    · exact fun heq => Table.insert_ne_empty _ _ _ (Option.some.inj heq)
    · exact h.levels tenant
  | user => exact ⟨h.schemas, h.levels⟩

theorem stocked_of (changes : List Change) : (of changes).Stocked := by
  have hfold {c : Cache} (h : c.Stocked) : (changes.foldl Cache.apply c).Stocked := by
    induction changes generalizing c with
    | nil => exact h
    | cons change changes ih => exact ih (h.apply change)
  exact hfold ⟨fun _ h => (by cases h), fun _ h => (by cases h)⟩

theorem Stocked.ext {c e : Cache} (h : c.Stocked) (h' : e.Stocked)
    (hshare : ∀ tenant, c.SameShare e tenant) (husers : c.users = e.users) : c = e := by
  have hschemas : c.schemas = e.schemas := Table.ext_get? fun tenant =>
    Option.eq_of_getD_eq (hshare tenant).schemas (h.schemas tenant) (h'.schemas tenant)
  have hglobal : c.globalLevels = e.globalLevels :=
    Table.ext_get? fun tenant => (hshare tenant).globalLevel
  have hlevels : c.subjectLevels = e.subjectLevels := Table.ext_get? fun tenant =>
    Option.eq_of_getD_eq (hshare tenant).levels (h.levels tenant) (h'.levels tenant)
  cases c
  cases e
  simp only at hschemas hglobal hlevels husers
  rw [hschemas, hglobal, hlevels, husers]

theorem users_apply (c : Cache) {change : Change} (h : change.record.stream ≠ adminStream) :
    (c.apply change).users = c.users := by
  cases change with
  | user => exact absurd rfl h
  | schema => rfl
  | globalLevel => rfl
  | subjectLevel => rfl

theorem users_apply_congr {c e : Cache} (h : c.users = e.users) (change : Change) :
    (c.apply change).users = (e.apply change).users := by
  cases change with
  | user u => exact congrArg (Directory.add · u) h
  | schema => exact h
  | globalLevel => exact h
  | subjectLevel => exact h

theorem users_on (changes : List Change) :
    (of changes).users = (of (Change.on adminStream changes)).users := by
  have hfold {c e : Cache} (h : c.users = e.users) :
      (changes.foldl Cache.apply c).users =
        ((Change.on adminStream changes).foldl Cache.apply e).users := by
    induction changes generalizing c e with
    | nil => exact h
    | cons change changes ih =>
      rw [Change.on, List.filter_cons]
      split
      · exact ih (users_apply_congr h change)
      · next hother => exact ih ((c.users_apply (by simpa using hother)).trans h)
  exact hfold rfl

theorem of_eq_of_on {cs ds : List Change}
    (h : ∀ stream, Change.on stream cs = Change.on stream ds) : of cs = of ds := by
  refine (stocked_of cs).ext (stocked_of ds) (fun tenant => ?_) ?_
  · have hcs := sameShare_on tenant cs
    rw [h tenant] at hcs
    exact hcs.trans (sameShare_on tenant ds).symm
  · rw [users_on, h, ← users_on]

end Cache

namespace Record

def Addressable (rs : List Record) : Prop :=
  ∀ stream, (rs.filter (·.stream = stream)).length ≤ Frame.offsets

theorem Addressable.sublist {rs ss : List Record} (h : Addressable ss) (hsub : rs.Sublist ss) :
    Addressable rs := fun stream => Nat.le_trans (hsub.filter _).length_le (h stream)

theorem Addressable.of_length {rs : List Record} (h : rs.length ≤ Frame.offsets) : Addressable rs :=
  fun _ => Nat.le_trans (List.length_filter_le ..) h

theorem Addressable.offsets {rs : List Record} (h : Addressable rs) (stream : String) :
    (MemoryLog.of rs).length stream ≤ Frame.offsets := by
  rw [MemoryLog.length_of, Change.length_on]
  exact h stream

end Record

namespace MemoryLog

theorem of_append_changes (rs more : List Record) :
    Change.of (rs ++ more) = Change.of rs ++ (of rs).changes more :=
  changes_append ∅ rs more

theorem length_of_le_append (rs more : List Record) (stream : String) :
    (of rs).length stream ≤ (of (rs ++ more)).length stream := by
  rw [length_of, length_of, of_append_changes, Change.on_append, List.length_append]
  exact Nat.le_add_right ..

theorem take_on_append {rs : List Record} {stream : String} {n : Nat}
    (h : n ≤ (of rs).length stream) (more : List Record) :
    (Change.on stream (Change.of (rs ++ more))).take n =
      (Change.on stream (Change.of rs)).take n := by
  rw [length_of] at h
  rw [of_append_changes, Change.on_append, List.take_append_of_le_length h]

end MemoryLog

namespace Storage

def replayEach (max : Nat) : List String → Action Storage LogError Unit
  | [] => return ()
  | stream :: streams => do
    let _ ← toCache.replay max stream
    replayEach max streams

variable {l : Log} {rs : List Record}

theorem write_live (hl : l.Holds (.of rs)) (hn : Record.Addressable rs)
    (r : Record) (c : Cache) :
    ∃ more l', more.Sublist [r] ∧ l'.Holds (.of (rs ++ more)) ∧
      (r.write.on (live l c none)).2 = live l' c none := by
  rcases write_cases hl (hn.offsets r.stream) (behind_none _) c with
    ⟨l', hserved, hl'⟩ | ⟨e, l', hrefused, hl'⟩
  · refine ⟨[r], l', List.Sublist.refl _, ?_, by rw [hserved]⟩
    rwa [MemoryLog.of_concat]
  · refine ⟨[], l', List.nil_sublist _, ?_, by rw [hrefused]⟩
    rwa [List.append_nil]

theorem replay_live (hl : l.Holds (.of rs)) (hn : Record.Addressable rs) (max : Nat)
    (stream : String) (c : Cache) (b : Option Backend) :
    ∃ l', l'.Holds (.of rs) ∧ (toCache.replay max stream).on (live l c b) =
      (.ok (.of ((MemoryLog.of rs).entries stream), ⟨stream, (MemoryLog.of rs).length stream⟩),
        live l' ((Change.on stream (Change.of rs)).foldl Cache.apply c) b) := by
  obtain ⟨l', hl', htoEnd⟩ := toEnd_live hl hn.offsets max stream (Nat.zero_le _) c b
  refine ⟨l', hl', ?_⟩
  simp only [Replayer.replay, Action.on_of, Cursor.start]
  rw [htoEnd, List.drop_zero, List.drop_zero]

theorem replayEach_live (hl : l.Holds (.of rs)) (hn : Record.Addressable rs) (max : Nat)
    (order : List String) (c : Cache) (b : Option Backend) :
    ∃ l', (replayEach max order).on (live l c b) =
      (.ok (), live l' ((order.flatMap (Change.on · (Change.of rs))).foldl Cache.apply c) b) := by
  induction order generalizing l c with
  | nil => exact ⟨l, rfl⟩
  | cons stream order ih =>
    obtain ⟨l₁, hl₁, hreplay⟩ := replay_live hl hn max stream c b
    obtain ⟨l₂, hrest⟩ := ih hl₁ ((Change.on stream (Change.of rs)).foldl Cache.apply c)
    refine ⟨l₂, ?_⟩
    rw [replayEach, Action.on_bind, hreplay]
    simp only [hrest, List.flatMap_cons, List.foldl_append]

end Storage

namespace Change

theorem on_flatMap_on {order : List String} (h : order.Nodup) (stream : String)
    (changes : List Change) :
    on stream (order.flatMap (on · changes)) =
      if stream ∈ order then on stream changes else [] := by
  induction order with
  | nil => rfl
  | cons s order ih =>
    obtain ⟨hs, horder⟩ := List.nodup_cons.1 h
    rw [List.flatMap_cons, on_append, on_of_forall (fun _ => stream_of_mem_on), ih horder]
    by_cases hstream : stream = s
    · subst hstream
      simp [hs]
    · simp [hstream]

end Change

namespace Durable

def startCached (l : Log) : Durable := ⟨.live l ∅ none, fun _ => 0⟩

def step (d : Durable) : Step → Durable
  | .write r => ⟨(r.write.on d.storage).2, d.next⟩
  | .poll stream max => d.poll stream max

def Step.record? : Step → Option Record
  | write r => some r
  | poll .. => none

def Step.polled? : Step → Option String
  | write _ => none
  | poll stream _ => some stream

/-- The log is ahead of the cache, which has taken in the front of each stream. -/
structure Lags (d : Durable) (rs : List Record) : Prop where
  storage : ∃ l, d.storage = .live l d.storage.cache none ∧ l.Holds (.of rs)
  next : ∀ stream, d.next stream ≤ (MemoryLog.of rs).length stream
  cache : ∃ taken, d.storage.cache = .of taken ∧
    ∀ stream, Change.on stream taken = d.replayed stream (Change.of rs)

variable {d : Durable} {rs : List Record}

theorem lags_start {l : Log} (h : l.New) : (startCached l).Lags [] where
  storage := ⟨l, rfl, h.holds⟩
  next _ := Nat.zero_le _
  cache := ⟨[], rfl, fun _ => rfl⟩

theorem Lags.poll_eq (h : d.Lags rs) (hn : Record.Addressable rs) (stream : String) (max : Nat) :
    ∃ l', l'.Holds (.of rs) ∧ d.poll stream max =
      ⟨.live l' ((batch d.next stream max (Change.of rs)).foldl Cache.apply d.storage.cache) none,
        fun s => if s = stream then d.next stream + (batch d.next stream max (Change.of rs)).length
          else d.next s⟩ := by
  obtain ⟨l, hstorage, hl⟩ := h.storage
  have hpoll := poll_live hl hn.offsets d.storage.cache none d.next stream max
  have hd : d = ⟨.live l d.storage.cache none, d.next⟩ := congrArg (Durable.mk · d.next) hstorage
  rwa [← hd] at hpoll

theorem Lags.poll (h : d.Lags rs) (hn : Record.Addressable rs) (stream : String) (max : Nat) :
    (d.poll stream max).Lags rs := by
  obtain ⟨taken, hcache, htaken⟩ := h.cache
  obtain ⟨l', hl', hpoll⟩ := h.poll_eq hn stream max
  rw [hpoll]
  refine ⟨⟨l', rfl, hl'⟩, next_le_of_batch h.next stream max,
    taken ++ batch d.next stream max (Change.of rs), ?_, fun s => ?_⟩
  · simp only [Storage.live]
    rw [Cache.of_append, ← hcache]
  · simp only [replayed]
    rw [Change.on_append, htaken, Change.on_of_forall fun _ => stream_of_mem_batch]
    split
    · next hs =>
      subst hs
      exact (take_add_batch ..).symm
    · exact List.append_nil _

theorem Lags.grow (h : d.Lags rs) {l : Log} {more : List Record} (hl : l.Holds (.of (rs ++ more))) :
    (Durable.mk (.live l d.storage.cache none) d.next).Lags (rs ++ more) := by
  obtain ⟨taken, hcache, htaken⟩ := h.cache
  refine ⟨⟨l, rfl, hl⟩, fun stream => ?_, taken, hcache, fun stream => ?_⟩
  · exact (h.next stream).trans (MemoryLog.length_of_le_append rs more stream)
  · rw [htaken, replayed, replayed, MemoryLog.take_on_append (h.next stream)]

theorem Lags.step (h : d.Lags rs) (step : Step) (hn : Record.Addressable rs) :
    ∃ more, more.Sublist step.record?.toList ∧ (d.step step).Lags (rs ++ more) := by
  cases step with
  | poll stream max =>
    refine ⟨[], List.nil_sublist _, ?_⟩
    rw [List.append_nil]
    exact h.poll hn stream max
  | write r =>
    obtain ⟨l, hstorage, hl⟩ := h.storage
    obtain ⟨more, l', hmore, hl', hwrite⟩ := Storage.write_live hl hn r d.storage.cache
    refine ⟨more, hmore, ?_⟩
    rw [Durable.step, hstorage, hwrite]
    exact h.grow hl'

theorem Lags.steps (h : d.Lags rs) (steps : List Step)
    (hn : Record.Addressable (rs ++ steps.filterMap Step.record?)) :
    ∃ more, more.Sublist (steps.filterMap Step.record?) ∧
      (steps.foldl Durable.step d).Lags (rs ++ more) := by
  induction steps generalizing d rs with
  | nil =>
    refine ⟨[], List.Sublist.refl _, ?_⟩
    rwa [List.append_nil]
  | cons first steps ih =>
    rw [filterMap_cons_toList] at hn ⊢
    obtain ⟨more, hmore, h₁⟩ := h.step first (hn.sublist (List.sublist_append_left ..))
    rw [← List.append_assoc] at hn
    obtain ⟨rest, hrest, h₂⟩ := ih h₁ (hn.sublist ((hmore.append_left rs).append_right _))
    refine ⟨more ++ rest, hmore.append hrest, ?_⟩
    rwa [← List.append_assoc]

theorem Lags.next_le_step (h : d.Lags rs) (hn : Record.Addressable rs) (step : Step)
    (stream : String) : d.next stream ≤ (d.step step).next stream := by
  cases step with
  | write r => exact Nat.le_refl _
  | poll s max =>
    obtain ⟨l', -, hpoll⟩ := h.poll_eq hn s max
    rw [Durable.step, hpoll]
    simp only
    split
    · next hs => exact hs ▸ Nat.le_add_right ..
    · exact Nat.le_refl _

theorem Lags.next_le_steps (h : d.Lags rs) (steps : List Step)
    (hn : Record.Addressable (rs ++ steps.filterMap Step.record?)) (stream : String) :
    d.next stream ≤ (steps.foldl Durable.step d).next stream := by
  induction steps generalizing d rs with
  | nil => exact Nat.le_refl _
  | cons first steps ih =>
    rw [filterMap_cons_toList] at hn
    have hrs := hn.sublist (List.sublist_append_left ..)
    obtain ⟨more, hmore, h₁⟩ := h.step first hrs
    rw [← List.append_assoc] at hn
    exact (h.next_le_step hrs first stream).trans
      (ih h₁ (hn.sublist ((hmore.append_left rs).append_right _)))

theorem next_step {step : Step} {stream : String} (h : step.polled? ≠ some stream) (d : Durable) :
    (d.step step).next stream = d.next stream := by
  cases step with
  | write r => rfl
  | poll s max =>
    have hs : stream ≠ s := fun hs => h (congrArg some hs.symm)
    simp only [Durable.step, Durable.poll]
    split
    · exact if_neg hs
    · rfl

theorem next_steps {steps : List Step} {stream : String}
    (h : stream ∉ steps.filterMap Step.polled?) (d : Durable) :
    (steps.foldl step d).next stream = d.next stream := by
  induction steps generalizing d with
  | nil => rfl
  | cons first steps ih =>
    simp only [List.mem_filterMap, not_exists, not_and, List.forall_mem_cons] at h ih
    rw [List.foldl_cons, ih h.2, next_step h.1]

theorem Lags.share (h : d.Lags rs) (tenant : String) :
    d.storage.cache.SameShare (.of (d.replayed tenant (Change.of rs))) tenant := by
  obtain ⟨taken, hcache, htaken⟩ := h.cache
  have hshare := Cache.sameShare_on tenant taken
  rwa [← hcache, htaken] at hshare

theorem Lags.sameShare (h : d.Lags rs) (tenant : String) :
    d.storage.cache.SameShare
      ((∅ : Cache).takeIn (((MemoryLog.of rs).entries tenant).take (d.next tenant))) tenant := by
  rw [Cache.takeIn, MemoryLog.filterMap_take]
  exact h.share tenant

theorem Lags.users (h : d.Lags rs) :
    d.storage.cache.users =
      ((∅ : Cache).takeIn
        (((MemoryLog.of rs).entries adminStream).take (d.next adminStream))).users := by
  obtain ⟨taken, hcache, htaken⟩ := h.cache
  rw [hcache, Cache.users_on, htaken, Cache.takeIn, MemoryLog.filterMap_take]
  rfl

theorem Lags.cache_eq (h : d.Lags rs) {order : List String} (hone : order.Nodup)
    (hread : ∀ stream ∈ order, (MemoryLog.of rs).length stream ≤ d.next stream)
    (hother : ∀ stream, stream ∉ order → d.next stream = 0) :
    d.storage.cache = .of (order.flatMap (Change.on · (Change.of rs))) := by
  obtain ⟨taken, hcache, htaken⟩ := h.cache
  rw [hcache]
  refine Cache.of_eq_of_on fun stream => ?_
  rw [htaken, Change.on_flatMap_on hone, replayed]
  split
  · next hmem =>
    refine List.take_of_length_le ?_
    rw [← MemoryLog.length_of]
    exact hread stream hmem
  · next hmem => rw [hother stream hmem, List.take_zero]

/-- Whatever has been written and replayed, a tenant has what the front of its stream leads to, and
once the readers of some streams have come to their ends, the cache is the one that is rebuilt from
these streams one after another, in any order. -/
theorem steps_independent {l : Log} (hl : l.New) {steps : List Step}
    (hn : Record.Addressable (steps.filterMap Step.record?)) :
    let d := steps.foldl step (startCached l)
    (∃ l' m, d.storage.log = some l' ∧ l'.Holds m ∧
      (∀ tenant, d.storage.cache.SameShare
        ((∅ : Cache).takeIn ((m.entries tenant).take (d.next tenant))) tenant) ∧
      d.storage.cache.users =
        ((∅ : Cache).takeIn ((m.entries adminStream).take (d.next adminStream))).users) ∧
    ∀ order : List String, order.Nodup →
      (∀ stream ∈ steps.filterMap Step.polled?, stream ∈ order) →
      (∀ stream ∈ order, d.next stream = d.storage.bound stream) → ∀ max, ∃ s,
        (Storage.replayEach max order).on { d.storage with cache := ∅ } = (.ok (), s) ∧
        s.cache = d.storage.cache := by
  intro d
  obtain ⟨rs, hrs, h⟩ := (lags_start hl).steps steps hn
  rw [List.nil_append] at h
  have hrs := hn.sublist hrs
  obtain ⟨l', hstorage, hl'⟩ := h.storage
  have hlog : d.storage.log = some l' := congrArg (·.log) hstorage
  refine ⟨⟨l', _, hlog, hl', h.sameShare, h.users⟩, fun order hone hpolled hend max => ?_⟩
  have hbound (stream : String) : d.storage.bound stream = (MemoryLog.of rs).length stream := by
    rw [Storage.bound, hlog]
    exact hl'.bound (hrs.offsets stream)
  have hcache := h.cache_eq hone (fun stream hmem => by rw [hend stream hmem, hbound])
    fun stream hmem => next_steps (fun hpoll => hmem (hpolled stream hpoll)) _
  obtain ⟨l'', hreplay⟩ := Storage.replayEach_live hl' hrs max order ∅ none
  have hfresh : { d.storage with cache := ∅ } = Storage.live l' ∅ none :=
    congrArg (fun s : Storage => { s with cache := ∅ }) hstorage
  rw [hfresh]
  exact ⟨_, hreplay, hcache.symm⟩

theorem steps_independent_admin :
    let steps : List Step := [.write (.schema "t" "s" "x"), .write (.schema "admin" "s" "y"),
      .write (.createUser "u" "k" true), .poll "admin" 1, .poll "t" 5,
      .write (.globalConfig "t" .full), .poll "t" 1, .poll "admin" 2]
    let d := steps.foldl step (startCached (.memory ∅))
    Record.Addressable (steps.filterMap Step.record?) ∧
    d.storage.cache.view.textOfId? "t" 1 = .ok (some "x") ∧
    d.storage.cache.view.textOfId? "admin" 1 = .ok (some "y") ∧
    d.storage.cache.view.userByToken? "k" = some ⟨"u", "k", true⟩ ∧
    ∀ max, ∃ s, (Storage.replayEach max ["t", "admin"]).on { d.storage with cache := ∅ } =
      (.ok (), s) ∧
      s.cache = d.storage.cache := by
  intro steps d
  have hn : Record.Addressable (steps.filterMap Step.record?) := .of_length (by decide)
  obtain ⟨-, hrebuilt⟩ := steps_independent .memory hn
  refine ⟨hn, by decide +kernel, by decide +kernel, by decide +kernel, ?_⟩
  exact hrebuilt ["t", "admin"] (by decide) (by decide) (by decide +kernel)

end Durable

end SchemaRegistry
