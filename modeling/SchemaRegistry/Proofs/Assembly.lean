import SchemaRegistry.Proofs.StaleReview
import SchemaRegistry.Registry.Assembly

/-!
Registries as they are assembled from settings.  Ids come from the log: with one, a schema is found
by the id that was returned for it, and no other text of its tenant has that id.  Without a log all
schemas have the id zero.
-/

namespace SchemaRegistry

open Change (stored storedIn)

namespace Instance

variable {s : Settings} {tokens : TokenStore} {h h' : Host} {i : Instance}

theorem isSome_openLog {settings : LogSettings} {log : Option Log}
    (hopen : (openLog settings).on h = (.ok log, h')) : log.isSome = settings.enabled := by
  unfold openLog at hopen
  split at hopen
  · next henabled =>
    obtain ⟨l, t, -, hreturn⟩ := Action.on_bind_eq_ok.1 hopen
    cases hreturn
    rw [henabled]
    rfl
  · next hdisabled =>
    obtain ⟨_, t, -, hreturn⟩ := Action.on_bind_eq_ok.1 hopen
    cases hreturn
    rw [Bool.eq_false_iff.2 hdisabled]
    rfl

theorem isSome_openBackend {settings : BackendSettings} {backend : Option (String × Database)}
    (hopen : (openBackend settings).on h = (.ok backend, h')) :
    backend.isSome = settings.path.isSome := by
  unfold openBackend at hopen
  cases hpath : settings.path with
  | none =>
    rw [hpath] at hopen
    cases hopen
    rfl
  | some path =>
    rw [hpath] at hopen
    obtain ⟨b, t, -, hreturn⟩ := Action.on_bind_eq_ok.1 hopen
    cases hreturn
    rfl

theorem storage_of_assemble (hassemble : (assemble s tokens).on h = (.ok i, h')) :
    ∃ log, ∃ database : Option Database,
      i.registry.storage = ⟨log, ∅, database.map .database, []⟩ ∧
      log.isSome = s.log.enabled ∧ database.isSome = s.backend.path.isSome := by
  obtain ⟨log, h₁, hlog, hrest⟩ := Action.on_bind_eq_ok.1 hassemble
  obtain ⟨backend, h₂, hbackend, hrest⟩ := Action.on_bind_eq_ok.1 hrest
  obtain ⟨_, h₃, -, hreturn⟩ := Action.on_bind_eq_ok.1 hrest
  cases hreturn
  refine ⟨log, backend.map (·.2), ?_, isSome_openLog hlog, ?_⟩
  · rw [Option.map_map]
    rfl
  · rw [Option.isSome_map]
    exact isSome_openBackend hbackend

structure Fresh (i : Instance) : Prop where
  log : ∀ l, i.registry.storage.log = some l → l.New
  backend : ∀ b, i.registry.storage.backend = some b → b = .database ∅

def durable (i : Instance) : Durable := ⟨i.registry.storage, fun _ => 0⟩

end Instance

theorem exists_of_mem_mapM {α β ε : Type} {f : α → Except ε β} {xs : List α} {ys : List β}
    (h : xs.mapM f = .ok ys) {y : β} (hy : y ∈ ys) : ∃ x ∈ xs, f x = .ok y := by
  induction xs generalizing ys with
  | nil =>
    cases h
    cases hy
  | cons x xs ih =>
    rw [List.mapM_cons] at h
    cases hx : f x with
    | error e =>
      rw [hx] at h
      cases h
    | ok z =>
      cases hxs : xs.mapM f with
      | error e =>
        rw [hx, hxs] at h
        cases h
      | ok zs =>
        rw [hx, hxs] at h
        cases h
        rcases List.mem_cons.1 hy with rfl | hy
        · exact ⟨x, List.mem_cons_self, hx⟩
        · obtain ⟨w, hw, hwy⟩ := ih hxs hy
          exact ⟨w, List.mem_cons_of_mem x hw, hwy⟩

namespace Database

def Unnumbered (d : Database) : Prop :=
  ∀ key bytes row, d.schemas.get? key = some bytes → Row.decode bytes = .ok row → row.id = 0

variable {d d' : Database}

theorem unnumbered_empty : (∅ : Database).Unnumbered := nofun

theorem Unnumbered.subject (h : d.Unnumbered) {tenant subject : String} {xs : List Schema}
    (hscan : d.subject tenant subject = .ok xs) {x : Schema} (hx : x ∈ xs) : x.id = 0 := by
  rw [Database.subject, scan_eq] at hscan
  obtain ⟨e, he, hrow⟩ := exists_of_mem_mapM hscan hx
  have hget := (Table.mem_entries_iff ..).1 (List.mem_filter.1 he).1
  unfold decodeRow at hrow
  split at hrow
  · cases hrow
  · split at hrow
    · cases hrow
    · next row hdecode =>
      cases hrow
      exact h e.1 e.2 row hget hdecode

theorem Unnumbered.find (h : d.Unnumbered) {tenant subject text : String} {x : Schema}
    (hfind : d.view.find? tenant subject text = .ok (some x)) : x.id = 0 := by
  simp only [view] at hfind
  cases hscan : d.subject tenant subject with
  | error e =>
    rw [hscan] at hfind
    cases hfind
  | ok xs =>
    rw [hscan] at hfind
    exact h.subject hscan (List.mem_of_find?_eq_some (Except.ok.inj hfind))

theorem Unnumbered.addSchema (h : d.Unnumbered) {tenant subject text : String}
    (happly : d.apply (.schema tenant subject 0 text) = .ok d') : d'.Unnumbered := by
  rw [Database.apply, Database.addSchema] at happly
  cases hversion : d.nextVersion tenant subject with
  | error e =>
    rw [hversion] at happly
    cases happly
  | ok version =>
    rw [hversion] at happly
    cases happly
    have hzero : Row.Holds 0 := by decide
    intro key bytes row hget hdecode
    rw [Table.get?_insert] at hget
    split at hget
    · cases hget
      cases (Row.decode_encode (r := ⟨0, text⟩) hzero).symm.trans hdecode
      rfl
    · exact h key bytes row hget hdecode

end Database

theorem Service.find?_of_review {p : Policy} {v : View} {tenant subject text : String} {id : Int}
    (h : review p v tenant subject text = .ok (some id)) :
    ∃ x, v.find? tenant subject text = .ok (some x) ∧ x.id = id := by
  rw [review] at h
  cases hjson : checkSyntax text with
  | error e =>
    rw [hjson] at h
    cases h
  | ok =>
    rcases hfind : v.find? tenant subject text with e | ⟨_ | x⟩
    · rw [hjson, hfind] at h
      cases h
    · -- a text that is new has no id
      rw [hjson, hfind] at h
      simp only [found, bind, Except.bind] at h
      rcases hlatest : v.latest? tenant subject with e | ⟨_ | latest⟩
      · rw [hlatest] at h
        cases h
      · rw [hlatest] at h
        cases h
      · rw [hlatest] at h
        cases hlevel : effectiveLevel p v tenant subject with
        | error e =>
          simp only [hlevel] at h
          cases h
        | ok level =>
          simp only [hlevel] at h
          split at h <;> cases h
    · rw [hjson, hfind] at h
      cases h
      exact ⟨x, rfl, rfl⟩

def Storage.unlogged (d : Database) : Storage := ⟨none, ∅, some (.database d), []⟩

namespace Storage

variable {d : Database}

theorem changeBackend_unlogged (d : Database) (change : Change) :
    (∃ e, (changeBackend change).on (unlogged d) = (.error e, unlogged d)) ∨
    ∃ d', d.apply change = .ok d' ∧
      (changeBackend change).on (unlogged d) = (.ok (), unlogged d') := by
  simp only [changeBackend, Action.on_of, unlogged, Outages.refuse, List.contains_nil,
    Bool.false_eq_true, ↓reduceIte, Backend.apply]
  cases happly : d.apply change with
  | error e => exact .inl ⟨e, rfl⟩
  | ok d' => exact .inr ⟨d', rfl, rfl⟩

theorem storeSchema_unlogged (h : d.Unnumbered) (tenant subject text : String) :
    ∃ answer d', (storeSchema tenant subject text).on (unlogged d) = (answer, unlogged d') ∧
      d'.Unnumbered ∧ ∀ id, answer = .ok id → id = 0 := by
  have hpublish : (publish (.schema tenant subject text)).on (unlogged d) =
      (.ok none, unlogged d) := rfl
  simp only [storeSchema, Action.on_bind, hpublish, idOf, Action.on_mapError]
  rcases changeBackend_unlogged d (.schema tenant subject 0 text) with
    ⟨e, hkeep⟩ | ⟨d', happly, hkeep⟩
  · rw [hkeep]
    exact ⟨_, d, rfl, h, fun _ hid => by cases hid⟩
  · rw [hkeep]
    refine ⟨_, d', rfl, h.addSchema happly, ?_⟩
    rintro _ ⟨⟩
    rfl

theorem serve_unlogged (h : d.Unnumbered) (p : Policy) (r : Request) :
    ∃ answer d', (r.serve p).on (unlogged d) = (answer, unlogged d') ∧ d'.Unnumbered ∧
      ∀ id, answer = .ok (.id id) → id = 0 := by
  cases r with
  | register tenant subject text =>
    rw [Request.serve, Service.register]
    simp only [Action.on_bind, Action.on_ask]
    rcases hreview : Service.review p (unlogged d).view tenant subject text with e | ⟨_ | id⟩
    · exact ⟨_, d, rfl, h, fun _ hid => by cases hid⟩
    · obtain ⟨answer, d', hstore, hd', hid⟩ := storeSchema_unlogged h tenant subject text
      simp only [Action.on_mapError, hstore]
      cases answer with
      | error e => exact ⟨_, d', rfl, hd', fun _ hid => by cases hid⟩
      | ok id =>
        refine ⟨_, d', rfl, hd', ?_⟩
        rintro _ ⟨⟩
        exact hid id rfl
    · obtain ⟨x, hfind, rfl⟩ := Service.find?_of_review hreview
      have hview : (unlogged d).view.find? tenant subject text = d.view.find? tenant subject text :=
        rfl
      refine ⟨_, d, rfl, h, ?_⟩
      rintro _ ⟨⟩
      exact h.find (hview.symm.trans hfind)
  | setGlobalLevel tenant level =>
    exact ⟨_, d.setGlobalLevel tenant level, rfl, h, fun _ hid => by cases hid⟩
  | setSubjectLevel tenant subject level =>
    exact ⟨_, d.setSubjectLevel tenant subject level, rfl, h, fun _ hid => by cases hid⟩

end Storage

namespace Durable

theorem poll_unlogged {d : Durable} {db : Database} (h : d.storage = .unlogged db) (stream : String)
    (max : Nat) : (d.poll stream max).storage = .unlogged db := by
  obtain ⟨_, _⟩ := d
  cases h
  rfl

theorem serveAll_unlogged {p : Policy} {d : Durable} {db : Database} (h : d.storage = .unlogged db)
    (hdb : db.Unnumbered) (turns : List Turn) :
    ∀ x ∈ (d.serveAll p turns).1, ∀ id, x.answer = .ok (.id id) → id = 0 := by
  induction turns generalizing d db with
  | nil => exact fun _ hx => absurd hx List.not_mem_nil
  | cons turn turns ih =>
    cases turn with
    | poll stream max => exact ih (poll_unlogged h stream max) hdb
    | request r =>
      obtain ⟨answer, db', hserve, hdb', hid⟩ := Storage.serve_unlogged hdb p r
      rw [← h] at hserve
      have hserved : d.serve p r = (⟨r, d.next r.tenant, answer⟩, ⟨.unlogged db', d.next⟩) := by
        rw [Durable.serve, hserve]
      rw [serveAll, hserved]
      exact List.forall_mem_cons.2 ⟨hid, ih rfl hdb'⟩

theorem Follows.textOfId? {d : Durable} {rs : List Record} (h : d.Follows rs)
    (hn : Countable (Change.of rs)) {tenant : String} (ht : Key.Plain tenant) {x : Stored}
    (hx : x ∈ stored tenant (Change.of rs)) :
    d.storage.view.textOfId? tenant x.id = .ok (some x.text) := by
  have hon := hn.ids_on tenant
  calc
    d.storage.view.textOfId? tenant x.id =
        (Cache.of (Change.on tenant (Change.of rs))).view.textOfId? tenant x.id :=
      ((h.view_sameFor ht).textOfId x.id).trans
        ((Cache.through_samePoints (d.replayed_isPrefix tenant _) hon).textOfId x.id)
    _ = .ok (some x.text) := Cache.textOfId?_replayed hon (by rwa [Change.stored_on])

end Durable

def Served.Registered (x : Served) (tenant text : String) (id : Int) : Prop :=
  (∃ subject, x.request = .register tenant subject text) ∧ x.answer = .ok (.id id)

theorem Durable.serveAll_registered {p : Policy} {l : Log} (hl : l.New) {turns : List Turn}
    {trace : List Served} {d : Durable} (hplain : ∀ turn ∈ turns, turn.Plain)
    (hrun : (start l).serveAll p turns = (trace, d)) (hn : Countable (Served.changes trace))
    (hfew : ∀ tenant subject, (storedIn tenant subject (Served.changes trace)).length < 0x100000000)
    {x : Served} (hx : x ∈ trace) {tenant text : String} {id : Int}
    (hregistered : x.Registered tenant text id) :
    0 < id ∧ Service.schemaById d.storage.view tenant id = .ok text := by
  have hempty : Change.of [] = Served.changes [] := rfl
  obtain ⟨rs, hof, hd, hsound⟩ :=
    (follows_start hl).serveAll (p := p) hempty (Served.sound_nil p _) hplain
      (by rw [hrun]; exact hn) (by rw [hrun]; exact hfew)
  simp only [hrun, List.nil_append] at hof hd hsound
  rw [← hof] at hn
  obtain ⟨⟨subject, hrequest⟩, hanswer⟩ := hregistered
  obtain ⟨y, hy, rfl, rfl⟩ := hsound.answered x hx tenant subject text id hrequest hanswer
  have hstored : y ∈ stored tenant (Change.of rs) := hof ▸ (List.mem_filter.1 hy).1
  obtain ⟨ht, -⟩ := hd.storable.fits _ (Change.mem_stored_iff.1 hstored)
  exact ⟨hn.id_pos hstored, by rw [Service.schemaById, hd.textOfId? hn ht hstored]; rfl⟩

namespace Instance

open Durable (Turn Countable)
open Served (changes)

variable {s : Settings} {tokens : TokenStore} {h h' : Host} {i : Instance}

/-- With a log and a database, an id leads to the text it was returned for, and no two texts of a
tenant have one id.  With a database alone, no id is of use. -/
theorem serveAll_ids (hassemble : (assemble s tokens).on h = (.ok i, h'))
    (hpath : s.backend.path ≠ none) (hfresh : i.Fresh) {turns : List Turn}
    (hplain : ∀ turn ∈ turns, turn.Plain) {trace : List Served} {d : Durable}
    (hrun : i.durable.serveAll i.registry.policy turns = (trace, d))
    (hn : Countable (changes trace))
    (hfew : ∀ tenant subject, (storedIn tenant subject (changes trace)).length < 0x100000000) :
    (s.log.enabled →
      (∀ x ∈ trace, ∀ tenant text id, x.Registered tenant text id →
        0 < id ∧ Service.schemaById d.storage.view tenant id = .ok text) ∧
      ∀ x ∈ trace, ∀ y ∈ trace, ∀ tenant text text' id id', x.Registered tenant text id →
        y.Registered tenant text' id' → text ≠ text' → id ≠ id') ∧
    (s.log.enabled = false → ∀ x ∈ trace, ∀ tenant text id, x.Registered tenant text id →
      id = 0) := by
  obtain ⟨log, database, hstorage, hlog, hdatabase⟩ := storage_of_assemble hassemble
  obtain ⟨db, rfl⟩ : ∃ db, database = some db := by
    rw [← Option.isSome_iff_exists, hdatabase]
    exact Option.isSome_iff_ne_none.2 hpath
  have hnew := hfresh.backend (.database db) (by rw [hstorage]; rfl)
  cases hnew
  refine ⟨fun henabled => ?_, fun hdisabled => ?_⟩
  · obtain ⟨l, rfl⟩ : ∃ l, log = some l := by
      rw [← Option.isSome_iff_exists, hlog, henabled]
    have hl : l.New := hfresh.log l (by rw [hstorage])
    have hstart : i.durable = .start l := by
      rw [durable, hstorage]
      rfl
    rw [hstart] at hrun
    have hids :=
      fun x hx => @Durable.serveAll_registered _ l hl turns trace d hplain hrun hn hfew x hx
    refine ⟨fun x hx tenant text id => hids x hx,
      fun x hx y hy tenant text text' id id' hx' hy' hne => ?_⟩
    rintro rfl
    exact hne (Except.ok.inj ((hids x hx hx').2.symm.trans (hids y hy hy').2))
  · obtain rfl : log = none := by
      rw [← Option.not_isSome_iff_eq_none, hlog, hdisabled]
      decide
    intro x hx tenant text id hregistered
    have hzero := Durable.serveAll_unlogged (p := i.registry.policy) (d := i.durable) hstorage
      Database.unnumbered_empty turns
    rw [hrun] at hzero
    exact hzero x hx id hregistered.2

theorem serveAll_ids_memory :
    let host : Host := ⟨.bare, ∅, [], fun _ => .unreachable, []⟩
    let s : Settings := { (default : Settings) with
      log := { (default : LogSettings) with endpoints := ["memory://"] }
      backend := { (default : BackendSettings) with path := some "/tmp/registry.redb" } }
    let turns : List Turn := [.request (.register "acme" "a" "1"), .poll "acme" 1,
      .request (.register "acme" "b" "2")]
    let trace : List Served := [⟨.register "acme" "a" "1", 0, .ok (.id 1)⟩,
      ⟨.register "acme" "b" "2", 1, .ok (.id 2)⟩]
    ∃ i h d, (assemble s .empty).on host = (.ok i, h) ∧ i.Fresh ∧
      i.durable.serveAll i.registry.policy turns = (trace, d) ∧
      Service.schemaById d.storage.view "acme" 1 = .ok "1" ∧
      Service.schemaById d.storage.view "acme" 2 = .ok "2" := by
  intro host s turns trace
  obtain ⟨⟨i, h⟩, hassemble, hlog, hbackend, htrace⟩ : ∃ p : Instance × Host,
      (assemble s .empty).on host = (.ok p.1, p.2) ∧
      p.1.registry.storage.log = some (.memory ∅) ∧
      p.1.registry.storage.backend = some (.database ∅) ∧
      (p.1.durable.serveAll p.1.registry.policy turns).1 = trace :=
        ⟨(_, _), rfl, rfl, rfl, by decide +kernel⟩
  have hfresh : i.Fresh := by
    refine ⟨fun l hl => ?_, fun b hb => ?_⟩
    · cases hlog.symm.trans hl
      exact .memory
    · cases hbackend.symm.trans hb
      rfl
  obtain ⟨d, hrun⟩ : ∃ d, i.durable.serveAll i.registry.policy turns = (trace, d) :=
    ⟨_, Prod.ext htrace rfl⟩
  obtain ⟨hids, -⟩ := (serveAll_ids hassemble (by decide) hfresh (by decide) hrun
    (.of_length (by decide +kernel)) (Change.length_storedIn_lt (by decide +kernel))).1 rfl
  have hfirst :=
    hids ⟨.register "acme" "a" "1", 0, .ok (.id 1)⟩ (by decide) "acme" "1" 1 ⟨⟨"a", rfl⟩, rfl⟩
  have hsecond :=
    hids ⟨.register "acme" "b" "2", 1, .ok (.id 2)⟩ (by decide) "acme" "2" 2 ⟨⟨"b", rfl⟩, rfl⟩
  exact ⟨i, h, d, hassemble, hfresh, hrun, hfirst.2, hsecond.2⟩

/-- With a database and no log, two texts have one id, and one of them is not found by it. -/
theorem serveAll_ids_unlogged :
    let host : Host := ⟨.bare, ∅, [], fun _ => .unreachable, []⟩
    let s : Settings := { (default : Settings) with
      backend := { (default : BackendSettings) with path := some "/tmp/registry.redb" } }
    let turns : List Turn :=
      [.request (.register "acme" "a" "1"), .request (.register "acme" "b" "2")]
    ∃ i h, (assemble s .empty).on host = (.ok i, h) ∧ i.Fresh ∧
      (i.durable.serveAll i.registry.policy turns).1.map (·.answer) = [.ok (.id 0), .ok (.id 0)] ∧
      Service.schemaById (i.durable.serveAll i.registry.policy turns).2.storage.view "acme" 0 =
        .ok "1" := by
  intro host s turns
  exact ⟨_, _, rfl, ⟨nofun, fun b hb => (Option.some.inj hb).symm⟩, by decide +kernel,
    by decide +kernel⟩

end Instance

end SchemaRegistry
