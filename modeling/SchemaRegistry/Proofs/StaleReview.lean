import SchemaRegistry.Proofs.Lag
import SchemaRegistry.Proofs.Request

/-!
Requests to a registry whose cache lags behind.  A new schema is checked against the latest version
that is shown, under the level that is shown.  Both are of the past as soon as the cache has
anything for them, so that a version need not be compatible with the one before.
-/

namespace SchemaRegistry

open Change (storedIn)
open Served (changes)
open View (seen)

def Served.replayed (x : Served) (before : List Change) : List Change :=
  (Change.on x.request.tenant before).take x.passed

namespace Durable

inductive Turn
  | request (r : Request)
  | poll (stream : String) (max : Nat)
  deriving DecidableEq

def Turn.Plain : Turn → Prop
  | request r => r.record.Plain
  | poll .. => True

instance : DecidablePred Turn.Plain
  | .request r => inferInstanceAs (Decidable r.record.Plain)
  | .poll .. => inferInstanceAs (Decidable True)

def serve (p : Policy) (d : Durable) (r : Request) : Served × Durable :=
  let (answer, storage) := (r.serve p).on d.storage
  (⟨r, d.next r.tenant, answer⟩, ⟨storage, d.next⟩)

def serveAll (p : Policy) (d : Durable) : List Turn → List Served × Durable
  | [] => ([], d)
  | .request r :: turns =>
    let (x, d) := d.serve p r
    let (trace, d) := serveAll p d turns
    (x :: trace, d)
  | .poll stream max :: turns => serveAll p (d.poll stream max) turns

variable {p : Policy} {d : Durable} {rs : List Record} {trace : List Served} {tenant : String}

theorem Follows.tells (h : d.Follows rs) (hn : Countable (Change.of rs)) (ht : Key.Plain tenant) :
    d.storage.view.Tells tenant (d.replayed tenant (Change.of rs)) (Change.of rs) := by
  have hshows := h.shows hn ht
  have hon := hn.ids_on tenant
  have hpoints := Cache.through_samePoints (d.replayed_isPrefix tenant (Change.of rs)) hon
  refine ⟨fun subject text => ?_, hshows.latest, hshows.globalLevel, hshows.subjectLevel⟩
  calc
    d.storage.view.find? tenant subject text =
        (Cache.of (Change.on tenant (Change.of rs))).view.find? tenant subject text :=
      ((h.view_sameFor ht).find subject text).trans (hpoints.find subject text)
    _ = _ := by rw [(Cache.reflects_replayed hon).find, Change.storedIn_on]

theorem Follows.serve (h : d.Follows rs) (hof : Change.of rs = changes trace)
    (hsound : Served.Sound p Served.replayed trace) {r : Request} (hr : r.record.Plain)
    (hn : Countable (changes (trace ++ [(d.serve p r).1])))
    (hfew : ∀ tenant subject,
      (storedIn tenant subject (changes (trace ++ [(d.serve p r).1]))).length < 0x100000000) :
    ∃ rs', Change.of rs' = changes (trace ++ [(d.serve p r).1]) ∧ (d.serve p r).2.Follows rs' ∧
      Served.Sound p Served.replayed (trace ++ [(d.serve p r).1]) := by
  obtain ⟨l, db, hstorage, hl, hdb⟩ := h.storage
  have hlive : d.storage = .live l d.storage.cache (some (.database db)) := hstorage
  have hbefore : Countable (Change.of rs) := by
    rw [Served.changes_concat, ← hof] at hn
    exact hn.left
  have ht : Key.Plain r.tenant := by
    cases r with
    | register => exact hr.1
    | setGlobalLevel => exact hr
    | setSubjectLevel => exact hr.1
  have htells := h.tells hbefore ht
  rw [hlive, hof] at htells
  obtain ⟨db', happly⟩ := hdb.accepts h.storable hr ((MemoryLog.of rs).length r.tenant)
  obtain ⟨answer, s, hserve, x, hx, hchecked, hanswered, hcases⟩ := Served.exists_served (p := p) hl
    (hbefore.offsets r.tenant) (Storage.behind_database happly) htells (d.next r.tenant)
  have hserved : d.serve p r = (x, ⟨s, d.next⟩) := by
    rw [hx, Durable.serve, hlive, hserve]
  have hsound' : Served.Sound p Served.replayed (trace ++ [x]) := by
    refine hsound.concat ?_ (Served.changes_concat trace x ▸ hanswered)
    subst hx
    exact hchecked
  rw [hserved, Served.changes_concat] at hn hfew
  rw [hserved, Served.changes_concat]
  rcases hcases with ⟨hmade, l', rfl, hl'⟩ | ⟨hmade, hwrite, -⟩
  · rw [hmade, Option.toList_none, List.append_nil]
    exact ⟨rs, hof, ⟨h.storable, ⟨l', db, rfl, hl', hdb⟩, h.next, h.cache⟩, hsound'⟩
  · rw [hmade, Option.toList_some, ← hof] at hn hfew ⊢
    rw [← hlive] at hwrite
    obtain ⟨hmore, hfollows⟩ := h.write hr hwrite hn hfew
    exact ⟨rs ++ [r.record], hmore, hfollows, hsound'⟩

/-- What requests and polls keep holds after all of them, if `Fits` holds of the trace they
leave. -/
theorem serveAll_keeps (Holds : Durable → List Served → Prop) (Fits : List Served → Prop)
    (hfits : ∀ trace more, Fits (trace ++ more) → Fits trace) {turns : List Turn}
    (hpoll : ∀ d trace stream max, Fits trace → Holds d trace → Holds (d.poll stream max) trace)
    (hserve : ∀ d trace r, .request r ∈ turns → Fits (trace ++ [(d.serve p r).1]) → Holds d trace →
      Holds (d.serve p r).2 (trace ++ [(d.serve p r).1]))
    (h : Holds d trace) (hall : Fits (trace ++ (d.serveAll p turns).1)) :
    Holds (d.serveAll p turns).2 (trace ++ (d.serveAll p turns).1) := by
  induction turns generalizing d trace with
  | nil =>
    rw [Durable.serveAll, List.append_nil]
    exact h
  | cons turn turns ih =>
    have hrest := fun d trace r hr => hserve d trace r (List.mem_cons_of_mem _ hr)
    cases turn with
    | poll stream max => exact ih hrest (hpoll d trace stream max (hfits _ _ hall) h) hall
    | request r =>
      rw [Durable.serveAll, List.append_cons] at hall ⊢
      exact ih hrest (hserve d trace r List.mem_cons_self (hfits _ _ hall) h) hall

theorem Follows.serveAll (h : d.Follows rs) (hof : Change.of rs = changes trace)
    (hsound : Served.Sound p Served.replayed trace) {turns : List Turn}
    (hplain : ∀ turn ∈ turns, turn.Plain)
    (hn : Countable (changes (trace ++ (d.serveAll p turns).1))) (hfew : ∀ tenant subject,
      (storedIn tenant subject (changes (trace ++ (d.serveAll p turns).1))).length < 0x100000000) :
    ∃ rs', Change.of rs' = changes (trace ++ (d.serveAll p turns).1) ∧
      (d.serveAll p turns).2.Follows rs' ∧
      Served.Sound p Served.replayed (trace ++ (d.serveAll p turns).1) := by
  let Few (trace : List Served) : Prop := Countable (changes trace) ∧
    ∀ tenant subject, (storedIn tenant subject (changes trace)).length < 0x100000000
  have hleft (trace more : List Served) (hall : Few (trace ++ more)) : Few trace := by
    obtain ⟨rest, hrest⟩ := Served.changes_isPrefix trace more
    refine ⟨Countable.left (hrest ▸ hall.1), fun tenant subject => ?_⟩
    have := hall.2 tenant subject
    rw [← hrest, Change.storedIn_append, List.length_append] at this
    omega
  refine serveAll_keeps (fun d trace => ∃ rs, Change.of rs = changes trace ∧ d.Follows rs ∧
    Served.Sound p Served.replayed trace) Few hleft ?_ ?_ ⟨rs, hof, h, hsound⟩ ⟨hn, hfew⟩
  · rintro d trace stream max ⟨hn, -⟩ ⟨rs, hof, h, hsound⟩
    exact ⟨rs, hof, h.poll (hof ▸ hn) stream max, hsound⟩
  · rintro d trace r hr ⟨hn, hfew⟩ ⟨rs, hof, h, hsound⟩
    exact h.serve hof hsound (hplain _ hr) hn hfew

/-- At any lag, the database has what the answers tell of, and each version but the first was
accepted after the latest version that was shown when it was registered, at the level that was
shown. -/
theorem serveAll_reviewed (p : Policy) {l : Log} (hl : l.New) {turns : List Turn}
    {trace : List Served} {d : Durable} (hplain : ∀ turn ∈ turns, turn.Plain)
    (hrun : (start l).serveAll p turns = (trace, d)) (hn : Countable (changes trace))
    (hfew : ∀ tenant subject, (storedIn tenant subject (changes trace)).length < 0x100000000) :
    (∃ db, d.storage.backend = some (.database db) ∧
      ∀ tenant, Key.Plain tenant → db.view.SameFor (Cache.of (changes trace)).view tenant) ∧
    ∀ tenant subject before old new after,
      storedIn tenant subject (changes trace) = before ++ old :: new :: after →
      ∃ done x rest shown, trace = done ++ x :: rest ∧
        x.request = .register tenant subject new.text ∧
        x.answer = .ok (.id new.id) ∧ storedIn tenant subject (changes done) = before ++ [old] ∧
        (seen (storedIn tenant subject (x.replayed (changes done))) (before ++ [old])).getLast? =
          some shown ∧
        p.rules.isCompatible new.text shown.text
          (p.levelShown tenant subject (x.replayed (changes done)) (changes done)) := by
  have hempty : Change.of [] = changes [] := rfl
  obtain ⟨rs, hof, h, hsound⟩ :=
    (follows_start hl).serveAll (p := p) hempty (Served.sound_nil p _) hplain
      (by rw [hrun]; exact hn) (by rw [hrun]; exact hfew)
  simp only [hrun, List.nil_append] at hof h hsound
  constructor
  · obtain ⟨l, db, hstorage, -, hdb⟩ := h.storage
    exact ⟨db, by rw [hstorage]; rfl, fun tenant ht => hof ▸ hdb.sameFor h.storable ht⟩
  · intro tenant subject before old new after hstored
    rw [List.append_cons] at hstored
    obtain ⟨done, x, rest, htrace, hrequest, hanswer, hdone, -, -, hcompatible⟩ :=
      hsound.exists_registration hstored
    have hne :
        seen (storedIn tenant subject (x.replayed (changes done))) (before ++ [old]) ≠ [] := by
      cases storedIn tenant subject (x.replayed (changes done)) <;> simp
    exact ⟨done, x, rest, _, htrace, hrequest, hanswer, hdone, List.getLast?_eq_some_getLast hne,
      hcompatible _ (List.getLast?_eq_some_getLast hne)⟩

theorem serveAll_reviewed_lagging :
    let p : Policy := ⟨.recordFields, .backward⟩
    let a := "\x7b\"fields\":[]\x7d"
    let b := "\x7b\"fields\":[\x7b\"name\":\"n\",\"default\":0\x7d]\x7d"
    let c := "\x7b\"fields\":[\x7b\"name\":\"n\",\"default\":1\x7d]\x7d"
    let turns : List Turn := [.request (.register "t" "s" a), .poll "t" 1,
      .request (.register "t" "s" b), .request (.setGlobalLevel "t" .full), .poll "t" 1,
      .request (.register "t" "s" c)]
    let trace : List Served := [⟨.register "t" "s" a, 0, .ok (.id 1)⟩,
      ⟨.register "t" "s" b, 1, .ok (.id 2)⟩, ⟨.setGlobalLevel "t" .full, 1, .ok (.level ⟨.full⟩)⟩,
      ⟨.register "t" "s" c, 2, .ok (.id 4)⟩]
    ∃ d, (start (.memory ∅)).serveAll p turns = (trace, d) ∧
      storedIn "t" "s" (changes trace) = [⟨"s", 1, a⟩, ⟨"s", 2, b⟩, ⟨"s", 4, c⟩] ∧
      (∃ db, d.storage.backend = some (.database db) ∧
        db.view.latest? "t" "s" = .ok (some ⟨"s", 4, 3, c⟩)) ∧
      ∃ done x rest, ∃ shown : Stored, trace = done ++ x :: rest ∧ x.request = .register "t" "s" c ∧
        p.rules.isCompatible c shown.text
          (p.levelShown "t" "s" (x.replayed (changes done)) (changes done)) := by
  intro p a b c turns trace
  obtain ⟨⟨_, d⟩, hrun, rfl⟩ : ∃ result, (start (.memory ∅)).serveAll p turns = result ∧
      result.1 = trace := ⟨_, rfl, by decide +kernel⟩
  have hstored : storedIn "t" "s" (changes trace) = [⟨"s", 1, a⟩, ⟨"s", 2, b⟩, ⟨"s", 4, c⟩] := by
    decide +kernel
  obtain ⟨⟨db, hbackend, hsame⟩, hreviewed⟩ := serveAll_reviewed p .memory (by decide) hrun
    (.of_length (by decide +kernel)) (Change.length_storedIn_lt (by decide +kernel))
  obtain ⟨done, x, rest, shown, htrace, hrequest, -, -, -, hcompatible⟩ :=
    hreviewed "t" "s" [_] _ _ [] hstored
  refine ⟨d, hrun, hstored, ⟨db, hbackend, ?_⟩, done, x, rest, shown, htrace, hrequest, hcompatible⟩
  rw [(hsame "t" (by decide)).latest "s"]
  decide +kernel

/-- The level last set does not allow the third version after the second, which no reader of the
stream has come to when the third is checked. -/
theorem serveAll_unordered :
    let p : Policy := ⟨.recordFields, .backward⟩
    let a := "\x7b\"fields\":[\x7b\"name\":\"a\"\x7d]\x7d"
    let b := "\x7b\"fields\":[]\x7d"
    let c := "\x7b\"fields\":[\x7b\"name\":\"a\"\x7d,\x7b\"name\":\"a\"\x7d]\x7d"
    let turns : List Turn := [.request (.register "acme" "orders" a), .poll "acme" 500,
      .request (.register "acme" "orders" b), .request (.register "acme" "orders" c)]
    ∃ result, (start (.memory ∅)).serveAll p turns = result ∧
      storedIn "acme" "orders" (changes result.1) =
        [⟨"orders", 1, a⟩, ⟨"orders", 2, b⟩, ⟨"orders", 3, c⟩] ∧
      result.2.storage.backend.map (fun db => db.view.versions? "acme" "orders") =
        some (.ok (some [1, 2, 3])) ∧
      p.levelAfter "acme" "orders" (changes result.1) = .backward ∧
      p.rules.isCompatible c b .backward = false := by
  refine ⟨_, rfl, ?_⟩
  decide +kernel

end Durable

end SchemaRegistry
