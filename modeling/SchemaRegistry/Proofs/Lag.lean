import SchemaRegistry.Proofs.Durable

/-!
What a lag of the cache shows and what it does not.  Single schemas are found as in the database at
every moment of any run.  Lists, latest schemas and levels are of the past as soon as the cache has
anything for what is asked.
-/

namespace SchemaRegistry

open Change (stored storedIn)

namespace Durable

variable {d : Durable} {rs : List Record} {tenant : String}

theorem replayed_isPrefix (d : Durable) (tenant : String) (changes : List Change) :
    d.replayed tenant changes <+: Change.on tenant changes :=
  List.take_prefix ..

theorem ids_replayed (hn : Countable (Change.of rs)) (d : Durable) (tenant : String) :
    (stored tenant (d.replayed tenant (Change.of rs))).Pairwise (·.id < ·.id) :=
  (hn.ids_on tenant).sublist (Change.stored_isPrefix (d.replayed_isPrefix tenant _) tenant).sublist

theorem Follows.view_sameFor (h : d.Follows rs) (ht : Key.Plain tenant) :
    d.storage.view.SameFor ((Cache.of (d.replayed tenant (Change.of rs))).view.through
      (Cache.of (Change.on tenant (Change.of rs))).view) tenant := by
  obtain ⟨l, db, hstorage, -, hdb⟩ := h.storage
  rw [hstorage, Storage.view_durable]
  exact (h.cache tenant).sameFor.through
    ((hdb.sameFor h.storable ht).trans (Cache.sameShare_on tenant _).sameFor)

/-- A cache that has taken in the first changes of a tenant does not hide single schemas of a
database that has all of them. -/
theorem samePoints_of_prefix {l : Log} {c : Cache} {db : Database} {p q : List Change}
    (hpq : p <+: q) (hc : c.SameShare (.of p) tenant)
    (hdb : db.view.SameFor (Cache.of q).view tenant)
    (hids : (stored tenant q).Pairwise (·.id < ·.id)) :
    (Storage.durable l c db).view.SamePoints db.view tenant :=
  (hc.sameFor.through hdb).samePoints.trans
    ((Cache.through_samePoints hpq hids).trans hdb.symm.samePoints)

theorem Follows.toEnd (h : d.Follows rs) (hn : Countable (Change.of rs)) {l : Log} {db : Database}
    (hstorage : d.storage = .durable l d.storage.cache db) (hl : l.Holds (.of rs)) (tenant : String)
    (max : Nat) :
    ∃ p cursor l' c', Storage.toCache.toEnd max ⟨tenant, d.next tenant⟩ d.storage =
        (p, cursor, none, .durable l' c' db) ∧
      c'.SameShare (.of (Change.on tenant (Change.of rs))) tenant := by
  obtain ⟨l', -, htoEnd⟩ := Storage.toEnd_live hl hn.offsets max tenant (h.next tenant)
    d.storage.cache (some (.database db))
  have hlive : d.storage = .live l d.storage.cache (some (.database db)) := hstorage
  rw [← hlive] at htoEnd
  refine ⟨_, _, l', _, htoEnd, ?_⟩
  have hshare := (h.cache tenant).foldl ((Change.on tenant (Change.of rs)).drop (d.next tenant))
  rwa [← Cache.of_append, replayed, List.take_append_drop] at hshare

/-- At any lag, single schemas are found as in the database, and as they will be when all is
replayed.  A schema is found by its id from the moment it has been stored. -/
theorem run_points {l : Log} (hl : l.New) {steps : List Step} {changes : List Change}
    (hplain : ∀ step ∈ steps, step.Plain) (hrun : (start l).run steps = .ok (changes, d))
    (hn : Countable changes)
    (hfew : ∀ tenant subject, (storedIn tenant subject changes).length < 0x100000000)
    (ht : Key.Plain tenant) :
    ∃ db, d.storage.backend = some (.database db) ∧ d.storage.view.SamePoints db.view tenant ∧
      (∀ x ∈ stored tenant changes, d.storage.view.textOfId? tenant x.id = .ok (some x.text)) ∧
      ∀ max, ∃ p cursor s, Storage.toCache.toEnd max ⟨tenant, d.next tenant⟩ d.storage =
          (p, cursor, none, s) ∧
        s.cache.view.SameFor db.view tenant ∧ s.view.SamePoints db.view tenant := by
  obtain ⟨rs, hof, h⟩ := (follows_start hl).run hplain hrun hn hfew
  cases hof
  obtain ⟨m, db, hstorage, hm, hdb⟩ := h.storage
  have hsame := hdb.sameFor h.storable ht
  have hall := hsame.trans (Cache.sameShare_on tenant _).sameFor
  have hids := hn.ids tenant
  have hon := (Change.stored_on ..).symm ▸ hids
  have hpoints : d.storage.view.SamePoints db.view tenant := by
    rw [hstorage]
    exact samePoints_of_prefix (d.replayed_isPrefix tenant _) (h.cache tenant) hall hon
  refine ⟨db, by rw [hstorage]; rfl, hpoints, fun x hx => ?_, fun max => ?_⟩
  · rw [hpoints.textOfId, hsame.textOfId, Cache.textOfId?_replayed hids hx]
  · obtain ⟨p, cursor, m', c, htoEnd, hc⟩ := h.toEnd hn hstorage hm tenant max
    exact ⟨p, cursor, _, htoEnd, hc.sameFor.trans hall.symm,
      samePoints_of_prefix (List.prefix_refl _) hc hall hon⟩

theorem run_points_lagging :
    let steps : List Step := [.write (.schema "t" "s" "x"), .write (.subjectConfig "t" "s" .full),
      .poll "t" 1, .write (.schema "t" "s" "y"), .write (.schema "u" "s" "z"),
      .write (.schema "t" "s" "x")]
    let changes : List Change := [.schema "t" "s" 1 "x", .subjectLevel "t" "s" .full,
      .schema "t" "s" 3 "y", .schema "u" "s" 1 "z", .schema "t" "s" 4 "x"]
    ∃ d, (start (.memory ∅)).run steps = .ok (changes, d) ∧ d.next "t" = 1 ∧
      d.storage.view.textOfId? "t" 3 = .ok (some "y") ∧
      ∃ db, d.storage.backend = some (.database db) ∧
        d.storage.view.find? "t" "s" "x" = db.view.find? "t" "s" "x" ∧
        d.storage.view.text? "t" "s" 2 = db.view.text? "t" "s" 2 := by
  intro steps changes
  obtain ⟨⟨_, d⟩, hrun, rfl, hnext⟩ : ∃ result, (start (.memory ∅)).run steps = .ok result ∧
      result.1 = changes ∧ result.2.next "t" = 1 := by decide +kernel
  have ht : Key.Plain "t" := by decide
  obtain ⟨db, hbackend, hpoints, hids, -⟩ := run_points .memory (by decide) hrun
    (.of_length (by decide)) (Change.length_storedIn_lt (by decide)) ht
  exact ⟨d, hrun, hnext, hids ⟨"s", 3, "y"⟩ (by decide), db, hbackend, hpoints.find "s" "x",
    hpoints.text "s" 2⟩

theorem Follows.shows (h : d.Follows rs) (hn : Countable (Change.of rs)) (ht : Key.Plain tenant) :
    d.storage.view.Shows tenant (d.replayed tenant (Change.of rs)) (Change.of rs) :=
  ((h.view_sameFor ht).shows
    (Cache.through_shows (ids_replayed hn d tenant) (hn.ids_on tenant))).of_on

/-- Lists, latest schemas and levels are those of what has been replayed from the moment that has
any, and until then those of all that has been written. -/
theorem run_shows {l : Log} (hl : l.New) {steps : List Step} {changes : List Change}
    (hplain : ∀ step ∈ steps, step.Plain) (hrun : (start l).run steps = .ok (changes, d))
    (hn : Countable changes)
    (hfew : ∀ tenant subject, (storedIn tenant subject changes).length < 0x100000000)
    (ht : Key.Plain tenant) :
    d.storage.view.Shows tenant (d.replayed tenant changes) changes := by
  obtain ⟨rs, hof, h⟩ := (follows_start hl).run hplain hrun hn hfew
  cases hof
  exact h.shows hn ht

theorem run_shows_lagging :
    let steps : List Step := [.write (.schema "t" "s" "x"), .write (.globalConfig "t" .full),
      .poll "t" 1, .write (.schema "t" "s" "y"), .write (.schema "t" "u" "z")]
    let changes : List Change := [.schema "t" "s" 1 "x", .globalLevel "t" .full,
      .schema "t" "s" 3 "y", .schema "t" "u" 4 "z"]
    ∃ d, (start (.memory ∅)).run steps = .ok (changes, d) ∧ d.next "t" = 1 ∧
      d.storage.view.latest? "t" "s" = .ok (some ⟨"s", 1, 1, "x"⟩) ∧
      d.storage.view.latest? "t" "u" = .ok (some ⟨"u", 4, 1, "z"⟩) ∧
      d.storage.view.globalLevel? "t" = .ok (some .full) := by
  intro steps changes
  obtain ⟨⟨_, d⟩, hrun, rfl, hnext⟩ : ∃ result, (start (.memory ∅)).run steps = .ok result ∧
      result.1 = changes ∧ result.2.next "t" = 1 := by decide +kernel
  have ht : Key.Plain "t" := by decide
  have hshows := run_shows .memory (by decide) hrun (.of_length (by decide))
    (Change.length_storedIn_lt (by decide)) ht
  rw [replayed, hnext] at hshows
  exact ⟨d, hrun, hnext, hshows.latest "s", hshows.latest "u", hshows.globalLevel⟩

/-- Where the cache has a past of all that is asked for, nothing written since is seen. -/
theorem run_hides_written :
    let steps : List Step := [.write (.schema "acme" "orders" "a"),
      .write (.globalConfig "acme" .none), .write (.subjectConfig "acme" "orders" .none),
      .poll "acme" 3, .write (.schema "acme" "orders" "b"), .write (.schema "acme" "users" "c"),
      .write (.globalConfig "acme" .full), .write (.subjectConfig "acme" "orders" .full)]
    ∃ result, (start (.memory ∅)).run steps = .ok result ∧
      let (changes, d) := result
      changes.drop 3 = [.schema "acme" "orders" 4 "b", .schema "acme" "users" 5 "c",
        .globalLevel "acme" .full, .subjectLevel "acme" "orders" .full] ∧
      d.storage.view.subjects "acme" = .ok ["orders"] ∧
      d.storage.view.versions? "acme" "orders" = .ok (some [1]) ∧
      d.storage.view.latest? "acme" "orders" = .ok (some ⟨"orders", 1, 1, "a"⟩) ∧
      d.storage.view.globalLevel? "acme" = .ok (some .none) ∧
      d.storage.view.subjectLevel? "acme" "orders" = .ok (some .none) := by
  decide +kernel

end Durable

end SchemaRegistry
