import Mathlib.Data.List.Nodup
import SchemaRegistry.Proofs.Request

/-!
A registry with a log and a cache that is brought up to date after every request.  All that was
accepted is there at once, and each version of a subject may follow the one before.
-/

namespace SchemaRegistry

open Change (stored storedIn)
open Served (changes)

theorem Stored.find?_text_of_mem {xs : List Stored} (h : (xs.map (·.text)).Nodup) {x : Stored}
    (hx : x ∈ xs) (n : Nat) :
    ∃ s, (versions n xs).find? (·.text = x.text) = some s ∧ s.id = x.id := by
  cases hfind : (versions n xs).find? (·.text = x.text) with
  | none => exact absurd rfl (find?_text_eq_none.1 hfind x hx)
  | some s =>
    obtain ⟨y, hy, hid, htext⟩ := exists_of_mem_versions (List.mem_of_find?_eq_some hfind)
    have hs : s.text = x.text := by simpa using List.find?_some hfind
    obtain rfl := List.inj_on_of_nodup_map h hy hx (htext.trans hs)
    exact ⟨s, rfl, hid.symm⟩

namespace Cache

variable {c e : Cache} {tenant : String} {cs : List Change}

theorem Reflects.of_sameFor (h : e.Reflects tenant cs) (hsame : c.view.SameFor e.view tenant) :
    c.Reflects tenant cs where
  textOfId x hx := (hsame.textOfId x.id).trans (h.textOfId x hx)
  versions subject := (hsame.versions subject).trans (h.versions subject)
  text subject k := (hsame.text subject (k + 1)).trans (h.text subject k)
  latest subject := (hsame.latest subject).trans (h.latest subject)
  find subject text := (hsame.find subject text).trans (h.find subject text)
  globalLevel := hsame.globalLevel.trans h.globalLevel
  subjectLevel subject := (hsame.subjectLevel subject).trans (h.subjectLevel subject)

theorem Reflects.tells (h : c.Reflects tenant cs) : c.view.Tells tenant cs cs where
  find := h.find
  latest subject := by simpa only [View.seen_self] using h.latest subject
  globalLevel := by simpa only [View.seen_self] using h.globalLevel
  subjectLevel subject := by simpa only [View.seen_self] using h.subjectLevel subject

def Numbered (c : Cache) : Prop :=
  ∀ tenant subject, ∀ s ∈ c.subject tenant subject, s.version < 0x100000000

theorem numbered_of_sameShare {changes : String → List Change}
    (h : ∀ tenant, c.SameShare (.of (changes tenant)) tenant)
    (hfew : ∀ tenant subject, (storedIn tenant subject (changes tenant)).length < 0x100000000) :
    c.Numbered := by
  intro tenant subject s hs
  rw [(h tenant).subject subject] at hs
  exact Nat.lt_of_le_of_lt (version_of_mem hs) (hfew tenant subject)

end Cache

structure Prompt where
  storage : Storage
  next : String → Nat

namespace Prompt

def start (l : Log) : Prompt := ⟨.live l ∅ none, fun _ => 0⟩

def catchUp (d : Prompt) (stream : String) (batch : Nat) : Prompt :=
  let (_, cursor, _, storage) := Storage.toCache.toEnd batch ⟨stream, d.next stream⟩ d.storage
  ⟨storage, fun s => if s = stream then cursor.next else d.next s⟩

def serve (p : Policy) (d : Prompt) (r : Request) (batch : Nat) : Served × Prompt :=
  let (answer, storage) := (r.serve p).on d.storage
  (⟨r, d.next r.tenant, answer⟩, (Prompt.mk storage d.next).catchUp r.tenant batch)

def serveAll (p : Policy) (d : Prompt) : List (Request × Nat) → List Served × Prompt
  | [] => ([], d)
  | (r, batch) :: steps =>
    let (x, d) := d.serve p r batch
    let (trace, d) := serveAll p d steps
    (x :: trace, d)

structure Follows (d : Prompt) (rs : List Record) : Prop where
  storage : ∃ l, d.storage = .live l d.storage.cache none ∧ l.Holds (.of rs)
  next : ∀ stream, d.next stream = (MemoryLog.of rs).length stream
  cache : ∀ tenant, d.storage.cache.SameShare (.of (Change.of rs)) tenant

variable {p : Policy} {d d' : Prompt} {rs rs' : List Record} {trace : List Served}

theorem follows_start {l : Log} (h : l.New) : (start l).Follows [] where
  storage := ⟨l, rfl, h.holds⟩
  next _ := rfl
  cache _ := .refl ∅ _

theorem Follows.catchUp (h : d.Follows rs) {l : Log} {stream : String} {more : List Change}
    (hof : Change.of rs' = Change.of rs ++ more)
    (hmore : ∀ change ∈ more, change.record.stream = stream) (hl : l.Holds (.of rs'))
    (hn : Durable.Countable (Change.of rs')) (batch : Nat) :
    ((Prompt.mk (.live l d.storage.cache none) d.next).catchUp stream batch).Follows rs' := by
  have hon (t : String) :
      Change.on t (Change.of rs') = Change.on t (Change.of rs) ++ Change.on t more := by
    rw [hof, Change.on_append]
  have hlength (t : String) : (MemoryLog.of rs').length t =
      (MemoryLog.of rs).length t + (Change.on t more).length := by
    rw [MemoryLog.length_of, hon, List.length_append, MemoryLog.length_of]
  have hstream : Change.on stream more = more :=
    (Change.on_of_forall hmore stream).trans (if_pos rfl)
  have hother {t : String} (ht : t ≠ stream) : Change.on t more = [] :=
    (Change.on_of_forall hmore t).trans (if_neg ht)
  have hnext : d.next stream ≤ (MemoryLog.of rs').length stream := by
    rw [h.next, hlength]
    exact Nat.le_add_right ..
  obtain ⟨l', hl', htoEnd⟩ :=
    Storage.toEnd_live hl hn.offsets batch stream hnext d.storage.cache none
  rw [Prompt.catchUp, htoEnd]
  refine ⟨⟨l', rfl, hl'⟩, fun t => ?_, fun tenant => ?_⟩
  · simp only
    split
    · next ht => rw [ht]
    · next ht => rw [h.next, hlength, hother ht, List.length_nil, Nat.add_zero]
  · rw [Storage.live, hon, h.next, MemoryLog.length_of, List.drop_left, hstream, hof,
      Cache.of_append]
    exact (h.cache tenant).foldl more

theorem Follows.reflects (h : d.Follows rs) (hn : Durable.Countable (Change.of rs))
    (tenant : String) :
    d.storage.cache.Reflects tenant (Change.of rs) :=
  (Cache.reflects_replayed (hn.ids tenant)).of_sameFor (h.cache tenant).sameFor

abbrev Sound (p : Policy) (trace : List Served) : Prop :=
  Served.Sound p (fun _ before => before) trace

theorem Follows.serve (h : d.Follows rs) (hof : Change.of rs = changes trace)
    (hsound : Sound p trace) (r : Request) (batch : Nat)
    (hn : Durable.Countable (changes (trace ++ [(d.serve p r batch).1]))) :
    ∃ rs', Change.of rs' = changes (trace ++ [(d.serve p r batch).1]) ∧
      (d.serve p r batch).2.Follows rs' ∧ Sound p (trace ++ [(d.serve p r batch).1]) := by
  obtain ⟨l, hstorage, hl⟩ := h.storage
  have hbefore : Durable.Countable (Change.of rs) := by
    rw [Served.changes_concat, ← hof] at hn
    exact hn.left
  have htells :
      (Storage.live l d.storage.cache none).view.Tells r.tenant (changes trace) (changes trace) :=
    hof ▸ (h.reflects hbefore r.tenant).tells
  obtain ⟨answer, s, hserve, x, hx, hchecked, hanswered, hcases⟩ := Served.exists_served (p := p) hl
    (hbefore.offsets r.tenant) (Storage.behind_none _) htells (d.next r.tenant)
  have hserved : d.serve p r batch = (x, (Prompt.mk s d.next).catchUp r.tenant batch) := by
    rw [hx, Prompt.serve, hstorage, hserve]
  rw [hserved] at hn ⊢
  rw [← Served.changes_concat] at hanswered
  rcases hcases with ⟨hmade, l', rfl, hl'⟩ | ⟨hmade, -, l', rfl, hl'⟩
  · have hsame : changes (trace ++ [x]) = Change.of rs := by
      rw [Served.changes_concat, hmade, Option.toList_none, List.append_nil, hof]
    exact ⟨rs, hsame.symm, h.catchUp (List.append_nil _).symm (by simp) hl' hbefore batch,
      hsound.concat hchecked hanswered⟩
  · have hmore := MemoryLog.changes_concat rs r.record
    rw [r.stream_record] at hmore
    have hsame : changes (trace ++ [x]) = Change.of (rs ++ [r.record]) := by
      rw [Served.changes_concat, hmade, Option.toList_some, hmore, hof]
    rw [← MemoryLog.of_concat] at hl'
    refine ⟨rs ++ [r.record], hsame.symm, h.catchUp hmore ?_ hl' (hsame ▸ hn) batch,
      hsound.concat hchecked hanswered⟩
    rw [List.forall_mem_singleton, Change.record_change, r.stream_record]

theorem Follows.serveAll (h : d.Follows rs) (hof : Change.of rs = changes trace)
    (hsound : Sound p trace) (steps : List (Request × Nat))
    (hn : Durable.Countable (changes (trace ++ (d.serveAll p steps).1))) :
    ∃ rs', Change.of rs' = changes (trace ++ (d.serveAll p steps).1) ∧
      (d.serveAll p steps).2.Follows rs' ∧ Sound p (trace ++ (d.serveAll p steps).1) := by
  induction steps generalizing d rs trace with
  | nil =>
    rw [Prompt.serveAll, List.append_nil]
    exact ⟨rs, hof, h, hsound⟩
  | cons step steps ih =>
    obtain ⟨r, batch⟩ := step
    rw [Prompt.serveAll, List.append_cons] at hn ⊢
    have hfirst : Durable.Countable (changes (trace ++ [(d.serve p r batch).1])) := by
      obtain ⟨more, hmore⟩ := Served.changes_isPrefix (trace ++ [(d.serve p r batch).1])
        (Prompt.serveAll p (d.serve p r batch).2 steps).1
      rw [← hmore] at hn
      exact hn.left
    obtain ⟨rs₁, hof₁, h₁, hsound₁⟩ := h.serve hof hsound r batch hfirst
    exact ih h₁ hof₁ hsound₁ hn

/-- What holds after requests have been served.  All of it is said in terms of the changes that the
answers tell of. -/
structure Consistent (p : Policy) (trace : List Served) (d : Prompt) : Prop where
  log : ∃ l, d.storage.log = some l ∧ l.Holds (.of ((changes trace).map (·.record)))
  failed : ∀ (r : Request) e s, (r.serve p).on d.storage = (.error e, s) →
    ∃ l, s.log = some l ∧ l.Holds (.of ((changes trace).map (·.record)))
  reflects : ∀ tenant, d.storage.cache.Reflects tenant (changes trace)
  /-- No version outgrows its 32 bits. -/
  numbered : d.storage.cache.Numbered
  ids : ∀ tenant subject, (storedIn tenant subject (changes trace)).Pairwise (·.id < ·.id)
  parsed : ∀ tenant subject, ∀ x ∈ storedIn tenant subject (changes trace),
    ∃ value, Json.parse (utf8 x.text) = .ok value
  distinct : ∀ tenant subject, ((storedIn tenant subject (changes trace)).map (·.text)).Nodup
  /-- A version was accepted after the one before it, at the level of that moment. -/
  compatible : ∀ tenant subject before old new after,
    storedIn tenant subject (changes trace) = before ++ old :: new :: after →
    ∃ done x rest, trace = done ++ x :: rest ∧ x.request = .register tenant subject new.text ∧
      x.answer = .ok (.id new.id) ∧ storedIn tenant subject (changes done) = before ++ [old] ∧
      p.rules.isCompatible new.text old.text (p.levelAfter tenant subject (changes done))
  found : ∀ x ∈ trace, ∀ tenant subject text id, x.request = .register tenant subject text →
    x.answer = .ok (.id id) →
    (∃ schema, Service.lookup d.storage.view tenant subject text = .ok schema ∧ schema.id = id) ∧
    Service.schemaById d.storage.view tenant id = .ok text

theorem Follows.failed (h : d.Follows rs) (hn : Durable.Countable (Change.of rs)) {r : Request}
    {e : ServiceError} {s : Storage} (hserve : (r.serve p).on d.storage = (.error e, s)) :
    ∃ l, s.log = some l ∧ l.Holds (.of rs) := by
  obtain ⟨l, hstorage, hl⟩ := h.storage
  rw [hstorage] at hserve
  rcases Request.serve_cases hl (hn.offsets r.tenant) (Storage.behind_none _) with
    ⟨e', l', hfailed, hl'⟩ | ⟨id, -, hknown⟩ | ⟨l', -, -, hwritten, -⟩
  · cases hfailed.symm.trans hserve
    exact ⟨l', rfl, hl'⟩
  · cases hknown.symm.trans hserve
  · cases hwritten.symm.trans hserve

theorem Follows.found (h : d.Follows rs) (hof : Change.of rs = changes trace)
    (hsound : Sound p trace) (hn : Durable.Countable (Change.of rs)) {tenant subject : String}
    {y : Stored} (hy : y ∈ storedIn tenant subject (changes trace)) :
    (∃ schema, Service.lookup d.storage.view tenant subject y.text = .ok schema ∧
      schema.id = y.id) ∧
      Service.schemaById d.storage.view tenant y.id = .ok y.text := by
  have hreflects := hof ▸ h.reflects hn tenant
  have hview : d.storage.view = d.storage.cache.view := by
    obtain ⟨l, hstorage, -⟩ := h.storage
    rw [hstorage]
    rfl
  obtain ⟨schema, hfind, hid⟩ := Stored.find?_text_of_mem (hsound.distinct tenant subject) hy 0
  constructor
  · refine ⟨schema, ?_, hid⟩
    rw [Service.lookup, hview, hreflects.find, hfind]
    rfl
  · rw [Service.schemaById, hview, hreflects.textOfId y (List.mem_filter.1 hy).1]
    rfl

/-- Whatever requests are served, each followed by a replay of its tenant's stream. -/
theorem serveAll_consistent (p : Policy) {l : Log} (hl : l.New) {steps : List (Request × Nat)}
    {trace : List Served} {d : Prompt} (hrun : (start l).serveAll p steps = (trace, d))
    (hn : Durable.Countable (changes trace))
    (hfew : ∀ tenant subject, (storedIn tenant subject (changes trace)).length < 0x100000000) :
    Consistent p trace d := by
  have hempty : Change.of [] = changes [] := rfl
  obtain ⟨rs, hof, h, hsound⟩ := (follows_start hl).serveAll hempty (Served.sound_nil p _) steps
    (by rw [hrun]; exact hn)
  simp only [hrun, List.nil_append] at hof h hsound
  have hrs : (changes trace).map (·.record) = rs := hof ▸ MemoryLog.map_record_changes ∅ rs
  have hn : Durable.Countable (Change.of rs) := hof.symm ▸ hn
  constructor
  case log =>
    obtain ⟨l, hstorage, hl⟩ := h.storage
    exact ⟨l, by rw [hstorage]; rfl, hrs ▸ hl⟩
  case failed => exact fun r e s hserve => hrs ▸ h.failed hn hserve
  case reflects => exact fun tenant => hof ▸ h.reflects hn tenant
  case numbered => exact Cache.numbered_of_sameShare h.cache (hof ▸ hfew)
  case ids => exact fun tenant subject => hof ▸ (hn.ids tenant).filter _
  case parsed => exact fun tenant subject x hx => hsound.parsed hx
  case distinct => exact hsound.distinct
  case compatible =>
    intro tenant subject before old new after hstored
    rw [List.append_cons] at hstored
    obtain ⟨done, x, rest, htrace, hrequest, hanswer, hdone, -, -, hcompatible⟩ :=
      hsound.exists_registration hstored
    simp only [hdone, View.seen_self, Policy.levelShown_self] at hcompatible
    exact ⟨done, x, rest, htrace, hrequest, hanswer, hdone, hcompatible old (by simp)⟩
  case found =>
    intro x hx tenant subject text id hrequest hanswer
    obtain ⟨y, hy, rfl, rfl⟩ := hsound.answered x hx tenant subject text id hrequest hanswer
    exact h.found hof hsound hn hy

theorem serveAll_consistent_rejected :
    let p : Policy := ⟨.recordFields, .backward⟩
    let a := "\x7b\"fields\":[]\x7d"
    let b := "\x7b\"fields\":[\x7b\"name\":\"n\"\x7d]\x7d"
    let steps : List (Request × Nat) := [(.register "t" "s" a, 1), (.register "t" "s" b, 1),
      (.setSubjectLevel "t" "s" .none, 2), (.register "t" "s" b, 0), (.register "t" "s" a, 1)]
    let trace : List Served := [⟨.register "t" "s" a, 0, .ok (.id 1)⟩,
      ⟨.register "t" "s" b, 1, .error (.incompatible "s" .backward)⟩,
      ⟨.setSubjectLevel "t" "s" .none, 1, .ok (.level ⟨.none⟩)⟩,
      ⟨.register "t" "s" b, 2, .ok (.id 3)⟩, ⟨.register "t" "s" a, 3, .ok (.id 1)⟩]
    ∃ d, (start (.memory ∅)).serveAll p steps = (trace, d) ∧
      storedIn "t" "s" (changes trace) = [⟨"s", 1, a⟩, ⟨"s", 3, b⟩] ∧
      d.storage.cache.view.versions? "t" "s" = .ok (some [1, 2]) ∧
      Service.schemaById d.storage.view "t" 3 = .ok b ∧
      ∃ done x rest, trace = done ++ x :: rest ∧ x.request = .register "t" "s" b ∧
        p.rules.isCompatible b a (p.levelAfter "t" "s" (changes done)) := by
  intro p a b steps trace
  obtain ⟨⟨_, d⟩, hrun, rfl⟩ : ∃ result, (start (.memory ∅)).serveAll p steps = result ∧
      result.1 = trace := ⟨_, rfl, by decide +kernel⟩
  have hstored : storedIn "t" "s" (changes trace) = [⟨"s", 1, a⟩, ⟨"s", 3, b⟩] := by decide +kernel
  have h := serveAll_consistent p .memory hrun (.of_length (by decide +kernel))
    (Change.length_storedIn_lt (by decide +kernel))
  obtain ⟨done, x, rest, htrace, hrequest, -, -, hcompatible⟩ :=
    h.compatible "t" "s" [] _ _ [] hstored
  refine ⟨d, hrun, hstored, ?_, ?_, done, x, rest, htrace, hrequest, hcompatible⟩
  · rw [(h.reflects "t").versions "s", hstored]
    rfl
  · exact (h.found ⟨.register "t" "s" b, 2, .ok (.id 3)⟩ (by simp [trace]) "t" "s" b 3 rfl rfl).2

end Prompt

end SchemaRegistry
