import SchemaRegistry.Proofs.Mirror
import SchemaRegistry.Proofs.ReadThrough
import SchemaRegistry.Proofs.Write

/-!
A registry with a log, a database and a cache.  A write goes to the log and to the database; the
cache takes in the log later, stream by stream, at any lag.  At every moment the database mirrors
all that was written, and a tenant's share of the cache is what the first changes of its stream lead
to.
-/

namespace SchemaRegistry

def Record.Plain : Record → Prop
  | schema client subject _ => Key.Plain client ∧ Key.Plain subject
  | globalConfig client _ => Key.Plain client
  | subjectConfig client subject _ => Key.Plain client ∧ Key.Plain subject
  | createUser .. => True

instance : DecidablePred Record.Plain
  | .schema .. => inferInstanceAs (Decidable (_ ∧ _))
  | .globalConfig .. => inferInstanceAs (Decidable (Key.Plain _))
  | .subjectConfig .. => inferInstanceAs (Decidable (_ ∧ _))
  | .createUser .. => inferInstanceAs (Decidable True)

theorem Row.holds_idAt {offset : Nat} (h : offset < 0x7fffffffffffffff) :
    Row.Holds (Schema.idAt offset) := by
  rw [Schema.idAt_of_lt (by omega)]
  exact ⟨by simp only [Json.IntegerKind.i64]; omega, by simp only [Json.IntegerKind.i64]; omega⟩

theorem Record.Plain.fits {r : Record} (h : r.Plain) {offset : Nat}
    (hoffset : offset < 0x7fffffffffffffff) : (r.change offset).Fits := by
  cases r with
  | schema => exact ⟨h.1, h.2, Row.holds_idAt hoffset⟩
  | globalConfig => exact h
  | subjectConfig => exact h
  | createUser => trivial

namespace MemoryLog

abbrev of (rs : List Record) : MemoryLog := rs.foldl publish ∅

end MemoryLog

abbrev Change.of (rs : List Record) : List Change := (∅ : MemoryLog).changes rs

namespace MemoryLog

theorem changes_append (m : MemoryLog) (rs ss : List Record) :
    m.changes (rs ++ ss) = m.changes rs ++ (rs.foldl publish m).changes ss := by
  induction rs generalizing m with
  | nil => rfl
  | cons r rs ih => rw [List.cons_append, changes, ih, changes, List.cons_append, List.foldl_cons]

theorem of_concat (rs : List Record) (r : Record) : of (rs ++ [r]) = (of rs).publish r :=
  List.foldl_append

theorem changes_concat (rs : List Record) (r : Record) :
    Change.of (rs ++ [r]) = Change.of rs ++ [r.change ((of rs).length r.stream)] :=
  changes_append ∅ rs [r]

theorem map_entries_of (rs : List Record) (stream : String) :
    ((of rs).entries stream).map Entry.change? = (Change.on stream (Change.of rs)).map some :=
  map_change?_entries ∅ rs stream

theorem change_of_getElem?_on {rs : List Record} {stream : String} {i : Nat} {change : Change}
    (h : (Change.on stream (Change.of rs))[i]? = some change) :
    change.record.change i = change := by
  have hentry := congrArg (·[i]?) (map_entries_of rs stream)
  simp only [List.getElem?_map, h, Option.map_some, Option.map_eq_some_iff] at hentry
  obtain ⟨e, he, hchange⟩ := hentry
  rw [← offset_of_getElem? he]
  exact (e.decode_of_change? hchange).2

theorem filterMap_drop (rs : List Record) (stream : String) (start : Nat) :
    (((of rs).entries stream).drop start).filterMap Entry.change? =
      (Change.on stream (Change.of rs)).drop start := by
  rw [filterMap_change?, List.map_drop, map_entries_of, ← List.map_drop, filterMap_id_some]

theorem filterMap_take (rs : List Record) (stream : String) (n : Nat) :
    (((of rs).entries stream).take n).filterMap Entry.change? =
      (Change.on stream (Change.of rs)).take n := by
  rw [filterMap_change?, List.map_take, map_entries_of, ← List.map_take, filterMap_id_some]

theorem filterMap_fetch (rs : List Record) (stream : String) (start max : Nat) :
    ((of rs).fetch stream start max).filterMap Entry.change? =
      ((Change.on stream (Change.of rs)).drop start).take max := by
  rw [fetch_eq, filterMap_change?, List.map_take, List.map_drop, map_entries_of, ← List.map_drop,
    ← List.map_take, filterMap_id_some]

theorem length_of (rs : List Record) (stream : String) :
    (of rs).length stream = (Change.on stream (Change.of rs)).length := by
  have hmap := congrArg List.length (map_entries_of rs stream)
  rwa [List.length_map, length_entries, List.length_map] at hmap

theorem length_fetch_of (rs : List Record) (stream : String) (start max : Nat) :
    ((of rs).fetch stream start max).length =
      (((Change.on stream (Change.of rs)).drop start).take max).length := by
  rw [length_fetch, length_of, List.length_take, List.length_drop]

end MemoryLog

theorem Change.length_on (rs : List Record) (stream : String) :
    (on stream (of rs)).length = (rs.filter (·.stream = stream)).length := by
  conv => rhs; rw [← MemoryLog.map_record_changes ∅ rs]
  rw [List.filter_map, List.length_map]
  rfl

namespace Storage

def durable (l : Log) (c : Cache) (d : Database) : Storage := ⟨some l, c, some (.database d), []⟩

variable {l : Log} {c : Cache} {d : Database}

theorem view_durable : (durable l c d).view = c.view.through d.view := rfl

theorem toEnd_live {rs : List Record} (hl : l.Holds (.of rs))
    (hn : ∀ stream, (MemoryLog.of rs).length stream ≤ Frame.offsets) (max : Nat) (stream : String)
    {next : Nat} (hnext : next ≤ (MemoryLog.of rs).length stream) (c : Cache) (b : Option Backend) :
    ∃ l', l'.Holds (.of rs) ∧ toCache.toEnd max ⟨stream, next⟩ (live l c b) =
      (.of (((MemoryLog.of rs).entries stream).drop next),
        ⟨stream, (MemoryLog.of rs).length stream⟩, none,
        live l' (((Change.on stream (Change.of rs)).drop next).foldl Cache.apply c) b) := by
  have hbound : toCache.bound stream (live l c b) = (MemoryLog.of rs).length stream :=
    hl.bound (hn stream)
  have hlive : ∃ l', live l c b = live l' c b ∧ l'.Holds (.of rs) := ⟨l, rfl, hl⟩
  obtain ⟨s, hadvance, l', rfl, hl'⟩ := (tracks_live b hn).advance hlive stream
    (Nat.lt_of_lt_of_le Nat.one_pos (Nat.le_max_right max 1))
    ((MemoryLog.of rs).length stream + 1) next hnext (by omega)
  refine ⟨l', hl', ?_⟩
  rw [Replayer.toEnd, hbound, hadvance, Cache.takeIn, MemoryLog.filterMap_drop]

theorem poll_live {rs : List Record} (hl : l.Holds (.of rs))
    (hn : ∀ stream, (MemoryLog.of rs).length stream ≤ Frame.offsets) (stream : String)
    (next max : Nat) (c : Cache) (b : Option Backend) :
    let batch := ((Change.on stream (Change.of rs)).drop next).take max
    ∃ p l', l'.Holds (.of rs) ∧ (toCache.poll ⟨stream, next⟩ max).on (live l c b) =
      (.ok (p, ⟨stream, next + batch.length⟩), live l' (batch.foldl Cache.apply c) b) := by
  intro batch
  obtain ⟨s, hpoll, l', rfl, hl'⟩ := (tracks_live b hn).poll ⟨l, rfl, hl⟩ stream next max
  rw [Cache.takeIn, MemoryLog.filterMap_fetch, MemoryLog.length_fetch_of] at hpoll
  exact ⟨_, l', hl', hpoll⟩

theorem behind_database {d d' : Database} {change : Change} (h : d.apply change = .ok d') :
    behind (some (.database d)) change = .ok (some (.database d')) := by
  cases change with
  | user =>
    cases h
    rfl
  | schema => simp only [behind, Option.mapM_some, Backend.apply, h]; rfl
  | globalLevel => simp only [behind, Option.mapM_some, Backend.apply, h]; rfl
  | subjectLevel => simp only [behind, Option.mapM_some, Backend.apply, h]; rfl

end Storage

theorem Database.Mirrors.accepts {d : Database} {cs : List Change} (h : d.Mirrors (.of cs))
    (hfit : Change.Storable cs) {r : Record} (hr : r.Plain) (offset : Nat) :
    ∃ d', d.apply (r.change offset) = .ok d' := by
  cases r with
  | schema client subject text =>
    have hversion := h.nextVersion_eq hfit hr.1 subject
    exact ⟨_, by
      simp only [Record.change, Database.apply, addSchema, hversion, bind, Except.bind]
      rfl⟩
  | globalConfig => exact ⟨_, rfl⟩
  | subjectConfig => exact ⟨_, rfl⟩
  | createUser => exact ⟨_, rfl⟩

structure Durable where
  storage : Storage
  next : String → Nat

namespace Durable

inductive Step
  | write (r : Record)
  | poll (stream : String) (max : Nat)
  deriving DecidableEq

def Step.Plain : Step → Prop
  | write r => r.Plain
  | poll .. => True

instance : DecidablePred Step.Plain
  | .write r => inferInstanceAs (Decidable r.Plain)
  | .poll .. => inferInstanceAs (Decidable True)

def start (l : Log) : Durable := ⟨.durable l ∅ ∅, fun _ => 0⟩

def poll (d : Durable) (stream : String) (max : Nat) : Durable :=
  match (Storage.toCache.poll ⟨stream, d.next stream⟩ max).on d.storage with
  | (.ok (_, cursor), storage) =>
    ⟨storage, fun s => if s = stream then cursor.next else d.next s⟩
  | (.error _, storage) => ⟨storage, d.next⟩

def run (d : Durable) : List Step → Except StorageError (List Change × Durable)
  | [] => .ok ([], d)
  | .write r :: steps =>
    match r.write.on d.storage with
    | (.error e, _) => .error e
    | (.ok change, storage) => do
      let (changes, d) ← run ⟨storage, d.next⟩ steps
      return (change :: changes, d)
  | .poll stream max :: steps => run (d.poll stream max) steps

def replayed (d : Durable) (tenant : String) (changes : List Change) : List Change :=
  (Change.on tenant changes).take (d.next tenant)

/-- The database mirrors what was written, and each tenant's share of the cache is what the changes
lead to that the reader of the tenant's stream has passed. -/
structure Follows (d : Durable) (rs : List Record) : Prop where
  storable : Change.Storable (Change.of rs)
  storage : ∃ l db, d.storage = .durable l d.storage.cache db ∧ l.Holds (.of rs) ∧
    db.Mirrors (.of (Change.of rs))
  next : ∀ stream, d.next stream ≤ (MemoryLog.of rs).length stream
  cache : ∀ tenant, d.storage.cache.SameShare (.of (d.replayed tenant (Change.of rs))) tenant

variable {d d' : Durable} {rs : List Record} {changes : List Change}

theorem follows_start {l : Log} (h : l.New) : (start l).Follows [] where
  storable := .of_length (fun _ h => absurd h List.not_mem_nil) (by decide)
  storage := ⟨l, ∅, rfl, h.holds, Database.mirrors_empty⟩
  next _ := Nat.zero_le _
  cache _ := .refl ∅ _

/-- Streams are short enough for ids to count their records. -/
def Countable (changes : List Change) : Prop :=
  ∀ stream, (Change.on stream changes).length < 0x8000000000000000

theorem Countable.of_length {changes : List Change} (h : changes.length < 0x8000000000000000) :
    Countable changes := fun _ =>
  Nat.lt_of_le_of_lt (List.length_filter_le ..) h

theorem Countable.left {cs ds : List Change} (h : Countable (cs ++ ds)) :
    Countable cs := fun stream => by
  have := h stream
  rw [Change.on_append, List.length_append] at this
  omega

theorem Countable.sublist {ss : List Record} (h : Countable (Change.of ss)) (hsub : rs.Sublist ss) :
    Countable (Change.of rs) := fun stream => by
  have hss := h stream
  rw [Change.length_on] at hss ⊢
  exact Nat.lt_of_le_of_lt (hsub.filter _).length_le hss

theorem Countable.offsets (h : Countable (Change.of rs)) (stream : String) :
    (MemoryLog.of rs).length stream ≤ Frame.offsets := by
  have := h stream
  rw [MemoryLog.length_of, Frame.offsets]
  omega

theorem Countable.records (h : Countable (Change.of rs)) (tenant : String) :
    (∅ : MemoryLog).length tenant + (rs.filter (·.stream = tenant)).length <
      0x8000000000000000 := by
  rw [← Change.length_on, show (∅ : MemoryLog).length tenant = 0 from rfl, Nat.zero_add]
  exact h tenant

theorem Countable.ids (h : Countable (Change.of rs)) (tenant : String) :
    (Change.stored tenant (Change.of rs)).Pairwise (·.id < ·.id) :=
  (MemoryLog.ids_changes ∅ rs tenant (h.records tenant)).1

theorem Countable.ids_on (h : Countable (Change.of rs)) (tenant : String) :
    (Change.stored tenant (Change.on tenant (Change.of rs))).Pairwise (·.id < ·.id) :=
  (Change.stored_on ..).symm ▸ h.ids tenant

theorem Countable.id_pos (h : Countable (Change.of rs)) {tenant : String} {x : Stored}
    (hx : x ∈ Change.stored tenant (Change.of rs)) : 0 < x.id :=
  (MemoryLog.ids_changes ∅ rs tenant (h.records tenant)).2 x hx

def batch (next : String → Nat) (stream : String) (max : Nat) (changes : List Change) :
    List Change :=
  ((Change.on stream changes).drop (next stream)).take max

theorem stream_of_mem_batch {next : String → Nat} {stream : String} {max : Nat} {change : Change}
    (h : change ∈ batch next stream max changes) : change.record.stream = stream :=
  Change.stream_of_mem_on (List.mem_of_mem_drop (List.mem_of_mem_take h))

theorem poll_live {l : Log} (hl : l.Holds (.of rs))
    (hn : ∀ stream, (MemoryLog.of rs).length stream ≤ Frame.offsets) (c : Cache)
    (b : Option Backend) (next : String → Nat) (stream : String) (max : Nat) :
    ∃ l', l'.Holds (.of rs) ∧ (Durable.mk (.live l c b) next).poll stream max =
      ⟨.live l' ((batch next stream max (Change.of rs)).foldl Cache.apply c) b, fun s =>
        if s = stream then next stream + (batch next stream max (Change.of rs)).length
        else next s⟩ := by
  obtain ⟨p, l', hl', hpoll⟩ := Storage.poll_live hl hn stream (next stream) max c b
  exact ⟨l', hl', by rw [Durable.poll, hpoll, batch]⟩

theorem next_le_of_batch {next : String → Nat} (h : ∀ s, next s ≤ (MemoryLog.of rs).length s)
    (stream : String) (max : Nat) (s : String) :
    (if s = stream then next stream + (batch next stream max (Change.of rs)).length else next s) ≤
      (MemoryLog.of rs).length s := by
  split
  · next hs =>
    subst hs
    have hnext := h s
    rw [MemoryLog.length_of] at hnext ⊢
    exact add_length_batch_le hnext max
  · exact h s

theorem take_add_batch (next : String → Nat) (stream : String) (max : Nat) (changes : List Change) :
    (Change.on stream changes).take (next stream + (batch next stream max changes).length) =
      (Change.on stream changes).take (next stream) ++ batch next stream max changes :=
  take_add_length_batch ..

theorem Follows.poll (h : d.Follows rs) (hn : Countable (Change.of rs)) (stream : String)
    (max : Nat) : (d.poll stream max).Follows rs := by
  obtain ⟨l, db, hstorage, hl, hdb⟩ := h.storage
  obtain ⟨l', hl', hpoll⟩ := poll_live hl hn.offsets d.storage.cache (some (.database db)) d.next
    stream max
  have hd : d = ⟨.live l d.storage.cache (some (.database db)), d.next⟩ :=
    congrArg (Durable.mk · d.next) hstorage
  rw [← hd] at hpoll
  rw [hpoll]
  refine ⟨h.storable, ⟨l', db, rfl, hl', hdb⟩, next_le_of_batch h.next stream max, fun tenant => ?_⟩
  simp only [Storage.live, replayed]
  split
  · next ht =>
    -- the batch is the next changes of the stream
    subst ht
    rw [take_add_batch, Cache.of_append]
    exact (h.cache tenant).foldl _
  · next ht =>
    refine (Cache.sameShare_foldl _ fun change hchange htenant => ht ?_).trans (h.cache tenant)
    exact (Change.stream_of_tenant? htenant).symm.trans (stream_of_mem_batch hchange)

theorem Follows.write (h : d.Follows rs) {r : Record} (hr : r.Plain) {change : Change}
    {storage : Storage} (hwrite : r.write.on d.storage = (.ok change, storage))
    (hn : Countable (Change.of rs ++ [change]))
    (hfew : ∀ tenant subject, (Change.storedIn tenant subject (Change.of rs ++ [change])).length <
      0x100000000) :
    Change.of (rs ++ [r]) = Change.of rs ++ [change] ∧
      (Durable.mk storage d.next).Follows (rs ++ [r]) := by
  obtain ⟨l, db, hstorage, hl, hdb⟩ := h.storage
  obtain ⟨db', happly⟩ := hdb.accepts h.storable hr ((MemoryLog.of rs).length r.stream)
  have hlive : d.storage = .live l d.storage.cache (some (.database db)) := hstorage
  rw [hlive] at hwrite
  rcases Storage.write_cases hl (hn.left.offsets r.stream) (Storage.behind_database happly)
    d.storage.cache with ⟨l', hserved, hl'⟩ | ⟨e, l', hrefused, -⟩
  case inr => cases hrefused.symm.trans hwrite
  cases hserved.symm.trans hwrite
  have hof := MemoryLog.changes_concat rs r
  have hlog := MemoryLog.of_concat rs r
  have hoffset : (MemoryLog.of rs).length r.stream < 0x7fffffffffffffff := by
    have hlast := hn r.stream
    rw [← hof, ← MemoryLog.length_of, hlog, MemoryLog.length_publish, if_pos rfl] at hlast
    omega
  have hstorable : Change.Storable (Change.of (rs ++ [r])) := by
    rw [hof]
    exact ⟨List.forall_mem_append.2
      ⟨h.storable.fits, List.forall_mem_singleton.2 (hr.fits hoffset)⟩, hfew⟩
  obtain ⟨db'', happly', hdb'⟩ := hdb.apply (hof ▸ hstorable)
  cases happly.symm.trans happly'
  refine ⟨hof, hstorable, ⟨l', db', rfl, hlog ▸ hl', hof ▸ hdb'⟩, fun stream => ?_,
    fun tenant => ?_⟩
  · have := h.next stream
    have := (MemoryLog.of rs).length_publish r stream
    rw [hlog]
    split at this <;> simp only <;> omega
  · have hnext := h.next tenant
    rw [MemoryLog.length_of] at hnext
    have hreplayed :
        (Durable.mk (.live l' d.storage.cache (some (.database db'))) d.next).replayed tenant
          (Change.of (rs ++ [r])) = d.replayed tenant (Change.of rs) := by
      rw [replayed, hof, Change.on_append, List.take_append_of_le_length hnext]
      rfl
    rw [hreplayed]
    exact h.cache tenant

theorem Follows.run (h : d.Follows rs) {steps : List Step}
    (hplain : ∀ step ∈ steps, step.Plain) (hrun : d.run steps = .ok (changes, d'))
    (hn : Countable (Change.of rs ++ changes))
    (hfew : ∀ tenant subject, (Change.storedIn tenant subject (Change.of rs ++ changes)).length <
      0x100000000) :
    ∃ rs', Change.of rs' = Change.of rs ++ changes ∧ d'.Follows rs' := by
  induction steps generalizing d rs changes with
  | nil =>
    cases hrun
    exact ⟨rs, (List.append_nil _).symm, h⟩
  | cons step steps ih =>
    obtain ⟨hfirst, hrest⟩ := List.forall_mem_cons.1 hplain
    cases step with
    | poll stream max => exact ih (h.poll hn.left stream max) hrest hrun hn hfew
    | write r =>
      rw [Durable.run] at hrun
      split at hrun
      · cases hrun
      · next change storage hwrite =>
        cases hmore : Durable.run ⟨storage, d.next⟩ steps with
        | error e => simp [hmore, bind, Except.bind] at hrun
        | ok result =>
          obtain ⟨more, left⟩ := result
          rw [hmore] at hrun
          cases hrun
          rw [List.append_cons] at hn hfew ⊢
          obtain ⟨hof, hd⟩ := h.write hfirst hwrite hn.left fun tenant subject => by
            have := hfew tenant subject
            rw [Change.storedIn_append, List.length_append] at this
            omega
          rw [← hof] at hn hfew ⊢
          exact ih hd hrest hmore hn hfew

end Durable

end SchemaRegistry
