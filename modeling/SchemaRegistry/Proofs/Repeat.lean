import SchemaRegistry.Proofs.Prompt
import SchemaRegistry.Proofs.StaleReview
import SchemaRegistry.Proofs.Streams

/-!
Registering a text again.  With a database, a text that was registered keeps its id from then on, at
any lag of the cache, and nothing is written.  With a log and a cache alone it does so once the
cache has taken it in; until then it is registered anew, under another id.
-/

namespace SchemaRegistry

open Change (stored storedIn)
open Served (changes)

theorem Stored.id_le_of_find? {xs : List Stored} (h : xs.Pairwise (·.id < ·.id)) {text : String}
    {first y : Stored} (hfind : xs.find? (·.text = text) = some first) (hy : y ∈ xs)
    (htext : y.text = text) : first.id ≤ y.id := by
  obtain ⟨-, before, after, rfl, hbefore⟩ := List.find?_eq_some_iff_append.1 hfind
  rcases List.mem_append.1 hy with hy | hy
  · have hne := hbefore y hy
    simp [htext] at hne
  · rcases List.mem_cons.1 hy with rfl | hy
    · exact Int.le_refl _
    · exact Int.le_of_lt (List.rel_of_pairwise_cons (List.pairwise_append.1 h).2.1 hy)

namespace Served

variable {p : Policy} {front : List Change} {trace : List Served} {x : Served}

/-- The changes that requests made, one after the other, if each is given what had been replayed by
then and nothing else. -/
def appended (trace : List Served) : List Change :=
  trace.foldl (fun before x => before ++ (x.made (x.replayed before)).toList) []

theorem appended_concat (trace : List Served) (x : Served) :
    appended (trace ++ [x]) = appended trace ++ (x.made (x.replayed (appended trace))).toList := by
  rw [appended, List.foldl_append]
  rfl

theorem appended_isPrefix (trace more : List Served) :
    appended trace <+: appended (trace ++ more) := by
  rw [appended, appended, List.foldl_append]
  exact isPrefix_foldl (fun before x => (x.made (x.replayed before)).toList) more _

theorem replayed_sublist (x : Served) (before : List Change) : (x.replayed before).Sublist before :=
  (List.take_sublist ..).trans List.filter_sublist

/-- Every id that was returned is that of a schema in the log, and every schema there is JSON and
its id was returned. -/
structure Logged (trace : List Served) : Prop where
  answered : ∀ x ∈ trace, x.Answered (appended trace)
  registered : ∀ tenant subject, ∀ y ∈ storedIn tenant subject (appended trace),
    (∃ value, Json.parse (utf8 y.text) = .ok value) ∧
      ∃ x ∈ trace, x.request = .register tenant subject y.text ∧ x.answer = .ok (.id y.id)

theorem logged_nil : Logged [] where
  answered _ hx := absurd hx List.not_mem_nil
  registered _ _ _ hy := absurd hy List.not_mem_nil

theorem Logged.concat (h : Logged trace)
    (hchecked : x.Checked p front (x.replayed (appended trace)))
    (hanswered : x.Answered
      (x.replayed (appended trace) ++ (x.made (x.replayed (appended trace))).toList)) :
    Logged (trace ++ [x]) where
  answered := by
    rw [List.forall_mem_append, List.forall_mem_singleton]
    refine ⟨fun y hy => (h.answered y hy).sublist (appended_isPrefix trace [x]).sublist,
      hanswered.sublist ?_⟩
    rw [appended_concat]
    exact (x.replayed_sublist _).append_right _
  registered tenant subject y hy := by
    rw [appended_concat, Change.storedIn_append] at hy
    rcases List.mem_append.1 hy with hy | hy
    · obtain ⟨hparsed, z, hz, hsame⟩ := h.registered tenant subject y hy
      exact ⟨hparsed, z, List.mem_append_left _ hz, hsame⟩
    · have hmade := made_of_mem_storedIn hy
      exact ⟨(hchecked _ _ _ _ hmade).1, x, List.mem_append_right _ List.mem_cons_self,
        of_made hmade⟩

end Served

namespace Durable

open Served (appended Logged)

variable {p : Policy} {d : Durable} {rs : List Record} {trace : List Served}
  {tenant subject text : String}

theorem storedIn_replayed_isPrefix (d : Durable) (tenant subject : String) (changes : List Change) :
    storedIn tenant subject (d.replayed tenant changes) <+: storedIn tenant subject changes := by
  have hfront := Change.storedIn_isPrefix (d.replayed_isPrefix tenant changes) tenant subject
  rwa [Change.storedIn_on] at hfront

theorem serve_found {id : Int}
    (h : Service.review p d.storage.view tenant subject text = .ok (some id)) :
    d.serve p (.register tenant subject text) =
      (⟨.register tenant subject text, d.next tenant, .ok (.id id)⟩, d) := by
  have hreview : (Request.register tenant subject text).review p d.storage.view = .ok (some id) := h
  rw [serve, Request.serve_known hreview]
  rfl

/-- No text is stored twice for a subject: not in the log, not in the database, and not in what the
cache has taken in. -/
structure Distinct (d : Durable) (tenant subject : String) : Prop where
  log : ∃ l m, d.storage.log = some l ∧ l.Holds m ∧
    ((storedIn tenant subject ((m.entries tenant).filterMap Entry.change?)).map (·.text)).Nodup
  backend : ∃ db schemas, d.storage.backend = some (.database db) ∧
    db.subject tenant subject = .ok schemas ∧ (schemas.map (·.text)).Nodup
  cache : ((d.storage.cache.subject tenant subject).map (·.text)).Nodup

theorem Follows.distinct (h : d.Follows rs) (ht : Key.Plain tenant)
    (hdistinct : ((storedIn tenant subject (Change.of rs)).map (·.text)).Nodup) :
    d.Distinct tenant subject := by
  obtain ⟨l, db, hstorage, hl, hdb⟩ := h.storage
  constructor
  · refine ⟨l, _, by rw [hstorage]; rfl, hl, ?_⟩
    have hentries : ((MemoryLog.of rs).entries tenant).filterMap Entry.change? =
        Change.on tenant (Change.of rs) := MemoryLog.filterMap_entries ∅ rs tenant
    rwa [hentries, Change.storedIn_on]
  · refine ⟨db, _, by rw [hstorage]; rfl, hdb.subject_eq h.storable ht subject, ?_⟩
    rwa [Cache.subject_replayed, Stored.map_text_versions]
  · rw [(h.cache tenant).subject, Cache.subject_replayed, Stored.map_text_versions]
    exact hdistinct.sublist ((d.storedIn_replayed_isPrefix tenant subject _).sublist.map _)

/-- At any lag, a text that was registered keeps its id and leaves everything as it is, so that no
subject has a text twice. -/
theorem serveAll_repeated (p : Policy) {l : Log} (hl : l.New) {turns : List Turn}
    {trace : List Served} {d : Durable} (hplain : ∀ turn ∈ turns, turn.Plain)
    (hrun : (start l).serveAll p turns = (trace, d)) (hn : Countable (changes trace))
    (hfew : ∀ tenant subject, (storedIn tenant subject (changes trace)).length < 0x100000000) :
    (∀ x ∈ trace, ∀ tenant subject text id, x.request = .register tenant subject text →
      x.answer = .ok (.id id) →
      d.serve p x.request = (⟨x.request, d.next tenant, .ok (.id id)⟩, d)) ∧
    ∀ tenant subject, Key.Plain tenant → d.Distinct tenant subject := by
  have hempty : Change.of [] = changes [] := rfl
  obtain ⟨rs, hof, h, hsound⟩ :=
    (follows_start hl).serveAll (p := p) hempty (Served.sound_nil p _) hplain
      (by rw [hrun]; exact hn) (by rw [hrun]; exact hfew)
  simp only [hrun, List.nil_append] at hof h hsound
  refine ⟨fun x hx tenant subject text id hrequest hanswer => ?_, fun tenant subject ht =>
    h.distinct ht (hof ▸ hsound.distinct tenant subject)⟩
  obtain ⟨y, hy, rfl, rfl⟩ := hsound.answered x hx tenant subject text id hrequest hanswer
  obtain ⟨ht, -⟩ := h.storable.fits _ (Change.schema_of_mem_storedIn (hof ▸ hy))
  obtain ⟨schema, hfind, hid⟩ := Stored.find?_text_of_mem (hsound.distinct tenant subject) hy 0
  have htells := h.tells (hof.symm ▸ hn) ht
  rw [hof] at htells
  rw [hrequest, ← hid]
  exact serve_found (Service.review_found htells (hsound.parsed hy) hfind)

theorem serveAll_repeated_lagging :
    let p : Policy := ⟨.recordFields, .none⟩
    let turns : List Turn := [.request (.register "t" "s" "1"), .poll "t" 1,
      .request (.register "t" "s" "2"), .request (.register "t" "s" "1")]
    let trace : List Served := [⟨.register "t" "s" "1", 0, .ok (.id 1)⟩,
      ⟨.register "t" "s" "2", 1, .ok (.id 2)⟩, ⟨.register "t" "s" "1", 1, .ok (.id 1)⟩]
    ∃ d, (start (.memory ∅)).serveAll p turns = (trace, d) ∧
      storedIn "t" "s" (changes trace) = [⟨"s", 1, "1"⟩, ⟨"s", 2, "2"⟩] ∧
      d.serve p (.register "t" "s" "1") = (⟨.register "t" "s" "1", d.next "t", .ok (.id 1)⟩, d) ∧
      d.serve p (.register "t" "s" "2") = (⟨.register "t" "s" "2", d.next "t", .ok (.id 2)⟩, d) ∧
      d.Distinct "t" "s" := by
  intro p turns trace
  obtain ⟨⟨_, d⟩, hrun, rfl⟩ : ∃ result, (start (.memory ∅)).serveAll p turns = result ∧
      result.1 = trace := ⟨_, rfl, by decide +kernel⟩
  obtain ⟨hagain, hdistinct⟩ := serveAll_repeated p .memory (by decide) hrun
    (.of_length (by decide +kernel)) (Change.length_storedIn_lt (by decide +kernel))
  refine ⟨d, hrun, by decide +kernel, ?_, ?_, hdistinct "t" "s" (by decide)⟩
  · exact hagain _ List.mem_cons_self "t" "s" "1" 1 rfl rfl
  · exact hagain _ (List.mem_cons_of_mem _ List.mem_cons_self) "t" "s" "2" 2 rfl rfl

theorem Countable.addressable (h : Countable (Change.of rs)) :
    Record.Addressable rs := fun stream => by
  rw [← Change.length_on, ← MemoryLog.length_of]
  exact h.offsets stream

theorem mem_replayed_of_id_le (hn : Countable (Change.of rs)) {id : Int}
    (h : .schema tenant subject id text ∈ Change.of rs) (hid : id ≤ d.next tenant) :
    .schema tenant subject id text ∈ d.replayed tenant (Change.of rs) := by
  have hon : .schema tenant subject id text ∈ Change.on tenant (Change.of rs) :=
    List.mem_filter.2 ⟨h, by simp [Change.record, Record.stream]⟩
  obtain ⟨i, hi, hget⟩ := List.mem_iff_getElem.1 hon
  have hoffset := MemoryLog.change_of_getElem?_on (List.getElem?_eq_some_iff.2 ⟨hi, hget⟩)
  have hidAt : Schema.idAt i = id := by
    injection hoffset
  rw [Schema.idAt_of_lt (Nat.lt_trans hi (hn tenant))] at hidAt
  exact List.mem_take_iff_getElem.2 ⟨i, by omega, hget⟩

theorem Lags.tells (h : d.Lags rs) (hn : Countable (Change.of rs)) (tenant : String) :
    d.storage.view.Tells tenant (d.replayed tenant (Change.of rs))
      (d.replayed tenant (Change.of rs)) := by
  have hids := ids_replayed hn d tenant
  obtain ⟨l, hstorage, -⟩ := h.storage
  rw [hstorage]
  exact ((Cache.reflects_replayed hids).of_sameFor (h.share tenant).sameFor).tells

theorem Lags.serve (h : d.Lags rs) (hof : Change.of rs = appended trace) (hlogged : Logged trace)
    (hn : Countable (Change.of rs)) (r : Request) :
    ∃ rs', Change.of rs' = appended (trace ++ [(d.serve p r).1]) ∧ (d.serve p r).2.Lags rs' ∧
      Logged (trace ++ [(d.serve p r).1]) := by
  obtain ⟨l, hstorage, hl⟩ := h.storage
  have htells := h.tells hn r.tenant
  rw [hstorage, hof] at htells
  obtain ⟨answer, s, hserve, x, hx, hchecked, hanswered, hcases⟩ := Served.exists_served (p := p) hl
    (hn.offsets r.tenant) (Storage.behind_none _) htells (d.next r.tenant)
  have hserved : d.serve p r = (x, ⟨s, d.next⟩) := by
    rw [hx, Durable.serve, hstorage, hserve]
  -- the review saw no more than what had been replayed, so the change is made in view of that
  have hreplayed : d.replayed r.tenant (appended trace) = x.replayed (appended trace) := by
    rw [hx]
    rfl
  rw [hreplayed] at hchecked hanswered hcases
  have hlogged' := hlogged.concat hchecked hanswered
  rw [hserved, Served.appended_concat]
  rcases hcases with ⟨hmade, l', rfl, hl'⟩ | ⟨hmade, -, l', rfl, hl'⟩
  · refine ⟨rs, ?_, ?_, hlogged'⟩
    · rw [hmade, Option.toList_none, List.append_nil, hof]
    · rw [← List.append_nil rs] at hl' ⊢
      exact h.grow hl'
  · refine ⟨rs ++ [r.record], ?_, h.grow ?_, hlogged'⟩
    · rw [MemoryLog.changes_concat, hof, hmade, r.stream_record, Option.toList_some]
    · rwa [MemoryLog.of_concat]

theorem Lags.serveAll (h : d.Lags rs) (hof : Change.of rs = appended trace) (hlogged : Logged trace)
    {turns : List Turn} (hn : Countable (appended (trace ++ (d.serveAll p turns).1))) :
    ∃ rs', Change.of rs' = appended (trace ++ (d.serveAll p turns).1) ∧
      (d.serveAll p turns).2.Lags rs' ∧
      Logged (trace ++ (d.serveAll p turns).1) := by
  have hleft (trace more : List Served) (hall : Countable (appended (trace ++ more))) :
      Countable (appended trace) := by
    obtain ⟨rest, hrest⟩ := Served.appended_isPrefix trace more
    exact Countable.left (hrest ▸ hall)
  refine serveAll_keeps
    (fun d trace => ∃ rs, Change.of rs = appended trace ∧ d.Lags rs ∧ Logged trace)
    (fun trace => Countable (appended trace)) hleft ?_ ?_ ⟨rs, hof, h, hlogged⟩ hn
  · rintro d trace stream max hn ⟨rs, hof, h, hlogged⟩
    exact ⟨rs, hof, h.poll (Countable.addressable (hof ▸ hn)) stream max, hlogged⟩
  · rintro d trace r - hn ⟨rs, hof, h, hlogged⟩
    exact h.serve hof hlogged (hof ▸ hleft _ _ hn) r

theorem Lags.serve_replayed (h : d.Lags rs) (hof : Change.of rs = appended trace)
    (hlogged : Logged trace) (hn : Countable (Change.of rs)) {y : Stored}
    (hy : y ∈ storedIn tenant subject (Change.of rs)) (hid : y.id ≤ d.next tenant) :
    ∃ first ∈ storedIn tenant subject (Change.of rs),
      (storedIn tenant subject (Change.of rs)).find? (·.text = y.text) = some first ∧
      first.text = y.text ∧ first.id ≤ y.id ∧
      d.serve p (.register tenant subject y.text) =
        (⟨.register tenant subject y.text, d.next tenant, .ok (.id first.id)⟩, d) := by
  have hreplayed :=
    Change.mem_storedIn (mem_replayed_of_id_le hn (Change.schema_of_mem_storedIn hy) hid)
  have hfront := d.storedIn_replayed_isPrefix tenant subject (Change.of rs)
  obtain ⟨first, hfind⟩ :
      ∃ first, (storedIn tenant subject (d.replayed tenant (Change.of rs))).find?
        (·.text = y.text) = some first :=
    Option.isSome_iff_exists.1 (List.find?_isSome.2 ⟨_, hreplayed, by simp⟩)
  -- the first that has been replayed is the first of all
  have hall := hfront.find?_eq_some hfind
  have hmem := List.mem_of_find?_eq_some hall
  have htext : first.text = y.text := by simpa using List.find?_some hall
  have hids :=
    (hn.ids tenant).sublist (List.filter_sublist (p := fun x => decide (x.subject = subject)))
  refine ⟨first, hmem, hall, htext, Stored.id_le_of_find? hids hall hy rfl, ?_⟩
  have hversions := Stored.find?_text_versions 0
    (storedIn tenant subject (d.replayed tenant (Change.of rs))) y.text
  rw [hfind, Option.map_some] at hversions
  obtain ⟨schema, hschema, hsame⟩ := Option.map_eq_some_iff.1 hversions
  rw [← hsame]
  refine serve_found (Service.review_found (h.tells hn tenant) ?_ hschema)
  exact htext ▸ (hlogged.registered tenant subject first (hof ▸ hmem)).1

/-- At any lag, the log has what the answers tell of.  A text keeps the lowest of its ids, and is
not appended again, as soon as the cache has taken in anything of it; until then it is appended
anew, under an id that is higher than all before. -/
theorem serveAll_settled (p : Policy) {l : Log} (hl : l.New) {turns : List Turn}
    {trace : List Served} {d : Durable} (hrun : (startCached l).serveAll p turns = (trace, d))
    (hn : Countable (appended trace))
    (hfew : ∀ tenant subject, (storedIn tenant subject (appended trace)).length < 0x100000000) :
    (∃ l', d.storage.log = some l' ∧ l'.Holds (.of ((appended trace).map (·.record)))) ∧
    d.storage.cache.Numbered ∧
    (∀ x ∈ trace, ∀ tenant subject text id, x.request = .register tenant subject text →
      x.answer = .ok (.id id) → id ≤ d.next tenant →
      ∃ first, (storedIn tenant subject (appended trace)).find? (·.text = text) = some first ∧
        first.id ≤ id ∧
        (∃ x' ∈ trace, x'.request = x.request ∧ x'.answer = .ok (.id first.id)) ∧
        d.serve p x.request = (⟨x.request, d.next tenant, .ok (.id first.id)⟩, d)) ∧
    ∀ done x rest tenant subject text id, trace = done ++ x :: rest →
      x.request = .register tenant subject text → x.answer = .ok (.id id) →
      (∀ y ∈ storedIn tenant subject (x.replayed (appended done)), y.text ≠ text) →
      appended (done ++ [x]) = appended done ++ [.schema tenant subject id text] ∧
        ∀ y ∈ stored tenant (appended done), y.id < id := by
  have hempty : Change.of [] = appended [] := rfl
  obtain ⟨rs, hof, h, hlogged⟩ := (lags_start hl).serveAll (p := p) hempty Served.logged_nil
    (by rw [hrun]; exact hn)
  simp only [hrun, List.nil_append] at hof h hlogged
  rw [← hof] at hn
  refine ⟨?_, ?_, fun x hx tenant subject text id hrequest hanswer hid => ?_, ?_⟩
  · obtain ⟨l', hstorage, hl'⟩ := h.storage
    refine ⟨l', by rw [hstorage]; rfl, ?_⟩
    rwa [← hof, MemoryLog.map_record_changes]
  · refine Cache.numbered_of_sameShare h.share fun tenant subject => ?_
    have hfront := d.storedIn_replayed_isPrefix tenant subject (Change.of rs)
    exact Nat.lt_of_le_of_lt hfront.length_le (hof ▸ hfew tenant subject)
  · obtain ⟨y, hy, rfl, rfl⟩ := hlogged.answered x hx tenant subject text id hrequest hanswer
    rw [← hof] at hy
    obtain ⟨first, hmem, hfind, htext, hle, hserve⟩ := h.serve_replayed hof hlogged hn hy hid
    rw [hof] at hfind hmem
    obtain ⟨-, x', hx', hrequest', hanswer'⟩ := hlogged.registered tenant subject first hmem
    rw [htext] at hrequest'
    rw [hrequest]
    exact ⟨first, hfind, hle, ⟨x', hx', hrequest', hanswer'⟩, hserve⟩
  · rintro done x rest tenant subject text id rfl hrequest hanswer hnew
    have happended : appended (done ++ [x]) =
        appended done ++ [.schema tenant subject id text] := by
      rw [Served.appended_concat, Served.made_new hrequest hanswer hnew, Option.toList_some]
    refine ⟨happended, ?_⟩
    have hfront := Change.stored_isPrefix (Served.appended_isPrefix (done ++ [x]) rest) tenant
    rw [List.append_assoc, List.singleton_append, ← hof, happended, Change.stored_append] at hfront
    have hids := List.pairwise_append.1 ((hn.ids tenant).sublist hfront.sublist)
    exact fun y hy => hids.2.2 y hy ⟨subject, id, text⟩ (Change.mem_stored_iff.2 List.mem_cons_self)

theorem serveAll_settled_twice :
    let p : Policy := ⟨.recordFields, .none⟩
    let turns : List Turn := [.request (.register "t" "s" "1"), .request (.register "t" "s" "1"),
      .poll "t" 5]
    let first : Served := ⟨.register "t" "s" "1", 0, .ok (.id 1)⟩
    let second : Served := ⟨.register "t" "s" "1", 0, .ok (.id 2)⟩
    ∃ d, (startCached (.memory ∅)).serveAll p turns = ([first, second], d) ∧ d.next "t" = 2 ∧
      (∃ l, d.storage.log = some l ∧ l.Holds (.of [.schema "t" "s" "1", .schema "t" "s" "1"])) ∧
      (∀ y ∈ stored "t" (appended [first]), y.id < 2) ∧
      d.serve p (.register "t" "s" "1") =
        (⟨.register "t" "s" "1", d.next "t", .ok (.id 1)⟩, d) := by
  intro p turns first second
  obtain ⟨⟨_, d⟩, hrun, rfl⟩ : ∃ result, (startCached (.memory ∅)).serveAll p turns = result ∧
      result.1 = [first, second] := ⟨_, rfl, by decide +kernel⟩
  have hnext : d.next "t" = 2 := by
    rw [← congrArg (fun result => result.2.next "t") hrun]
    decide +kernel
  have happended : appended [first, second] = [.schema "t" "s" 1 "1", .schema "t" "s" 2 "1"] := by
    decide +kernel
  have hlowest : (storedIn "t" "s" (appended [first, second])).find? (·.text = "1") =
      some ⟨"s", 1, "1"⟩ := by
    decide +kernel
  obtain ⟨⟨l, hlog, hl⟩, -, hagain, hanew⟩ := serveAll_settled p .memory hrun
    (.of_length (by decide +kernel)) (Change.length_storedIn_lt (by decide +kernel))
  rw [happended] at hl
  obtain ⟨-, hhigher⟩ := hanew [first] second [] "t" "s" "1" 2 rfl rfl rfl (by decide +kernel)
  obtain ⟨y, hfind, -, -, hserve⟩ := hagain second (by simp) "t" "s" "1" 2 rfl rfl
    (by rw [hnext]; decide)
  cases hlowest.symm.trans hfind
  exact ⟨d, hrun, hnext, ⟨l, hlog, hl⟩, hhigher, hserve⟩

/-- Nothing is replayed between the two, and the second is appended like the first. -/
theorem serveAll_unsettled :
    let turns : List Turn := [.request (.register "acme" "orders" "\x7b\x7d"),
      .request (.register "acme" "orders" "\x7b\x7d")]
    ∃ result, (startCached (.memory ∅)).serveAll ⟨.recordFields, .none⟩ turns = result ∧
      result.1.map (·.answer) = [.ok (.id 1), .ok (.id 2)] ∧ result.2.storage.bound "acme" = 2 := by
  refine ⟨_, rfl, ?_⟩
  decide +kernel

end Durable

end SchemaRegistry
