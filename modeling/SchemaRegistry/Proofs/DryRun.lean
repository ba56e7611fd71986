import SchemaRegistry.Proofs.Request
import SchemaRegistry.Proofs.Streams

/-!
Checking a text against the latest version of its subject tells what registering it will do.  The
check reads the version by its number and the registration reads the latest one; in a registry with
a log and a cache these are the same, whatever has been written and replayed.  Only a text that the
subject has already goes its own way: registered again, it is not checked.
-/

namespace SchemaRegistry

def View.Has (v : View) (tenant subject text : String) : Prop :=
  ∃ version, v.text? tenant subject version = .ok (some text)

namespace Cache

variable {c : Cache} {tenant subject text : String} {xs : List Stored} {s : Schema}

theorem text?_of_mem (h : c.subject tenant subject = Stored.versions 0 xs)
    (hs : s ∈ c.subject tenant subject) :
    c.view.text? tenant subject s.version = .ok (some s.text) := by
  rw [h] at hs
  simp only [view, h, Stored.find?_version_of_mem hs, Option.map_some]

theorem text?_latest (h : c.subject tenant subject = Stored.versions 0 xs)
    (hlatest : c.view.latest? tenant subject = .ok (some s)) :
    c.view.text? tenant subject s.version = .ok (some s.text) := by
  refine text?_of_mem h ?_
  simp only [view, h, Stored.latest?_versions, Except.ok.injEq] at hlatest
  exact h ▸ List.mem_of_getLast? hlatest

theorem find?_of_has (h : c.subject tenant subject = Stored.versions 0 xs)
    (hhas : c.view.Has tenant subject text) :
    ∃ s, c.view.find? tenant subject text = .ok (some s) ∧
      c.view.text? tenant subject s.version = .ok (some text) := by
  obtain ⟨version, htext⟩ := hhas
  simp only [view, Except.ok.injEq, Option.map_eq_some_iff] at htext
  obtain ⟨s, hs, rfl⟩ := htext
  rw [h] at hs
  have hfound : ((Stored.versions 0 xs).find? (·.text = s.text)).isSome :=
    List.find?_isSome.2 ⟨s, List.mem_of_find?_eq_some hs, by simp⟩
  obtain ⟨t, ht⟩ := Option.isSome_iff_exists.1 hfound
  have htext : t.text = s.text := by simpa using List.find?_some ht
  refine ⟨t, by simp only [view, h, Stored.earliest?_versions, ht], ?_⟩
  rw [← htext]
  exact text?_of_mem h (h ▸ List.mem_of_find?_eq_some ht)

theorem find?_of_not_has (h : c.subject tenant subject = Stored.versions 0 xs)
    (hnew : ¬ c.view.Has tenant subject text) : c.view.find? tenant subject text = .ok none := by
  simp only [view, h, Stored.earliest?_versions, Except.ok.injEq]
  refine List.find?_eq_none.2 fun s hs htext => hnew ⟨s.version, ?_⟩
  rw [← of_decide_eq_true htext]
  exact text?_of_mem h (h ▸ hs)

end Cache

namespace Service

variable {p : Policy} {v : View} {tenant subject text existing : String} {version : Nat}
  {latest : Schema} {level : Level} {cause : Json.Error}

theorem checkSyntax_eq_error (h : Json.parse (utf8 text) = .error cause) :
    checkSyntax text = .error (.invalidSchema cause) := by
  rw [checkSyntax, h]

theorem effectiveLevel_cache (p : Policy) (c : Cache) (tenant subject : String) :
    effectiveLevel p c.view tenant subject =
      .ok (p.level ((c.levels tenant).get? subject) (c.globalLevels.get? tenant)) := by
  simp only [effectiveLevel, Cache.view, found, bind, Except.bind]
  cases (c.levels tenant).get? subject <;> rfl

theorem checkCompatibility_unreadable (h : Json.parse (utf8 text) = .error cause) :
    checkCompatibility p v tenant subject version text = .error (.invalidSchema cause) := by
  simp only [checkCompatibility, checkSyntax_eq_error h, bind, Except.bind]

theorem review_unreadable (h : Json.parse (utf8 text) = .error cause) :
    review p v tenant subject text = .error (.invalidSchema cause) := by
  simp only [review, checkSyntax_eq_error h, bind, Except.bind]

theorem checkCompatibility_eq (hparsed : ∃ value, Json.parse (utf8 text) = .ok value)
    (htext : v.text? tenant subject version = .ok (some existing))
    (hlevel : effectiveLevel p v tenant subject = .ok level) :
    checkCompatibility p v tenant subject version text =
      .ok (p.rules.isCompatible text existing level) := by
  simp only [checkCompatibility, checkSyntax_eq_ok.2 hparsed, schema, present, found, htext,
    hlevel, bind, Except.bind]
  rfl

theorem review_new (hparsed : ∃ value, Json.parse (utf8 text) = .ok value)
    (hfind : v.find? tenant subject text = .ok none)
    (hlatest : v.latest? tenant subject = .ok (some latest))
    (hlevel : effectiveLevel p v tenant subject = .ok level) :
    review p v tenant subject text =
      if p.rules.isCompatible text latest.text level then .ok none
      else .error (.incompatible subject level) := by
  simp only [review, checkSyntax_eq_ok.2 hparsed, found, hfind, hlatest, hlevel, bind, Except.bind]
  rfl

end Service

namespace Storage

variable {p : Policy} {l : Log} {c : Cache} {m : MemoryLog} {tenant subject text : String}

theorem storeSchema_unbacked {l' : Log} {offset : Option Nat}
    (h : (publish (.schema tenant subject text)).on (live l c none) =
      (.ok offset, live l' c none)) :
    (storeSchema tenant subject text).on (live l c none) = (.ok (idOf offset), live l' c none) := by
  simp only [storeSchema, Action.on_bind, h, Action.on_mapError,
    changeBackend_live (b := none) (c := c) (l := l') rfl]
  rfl

theorem register_acknowledged (hl : l.Holds m) (hn : m.length tenant ≤ Frame.offsets)
    (hreview : Service.review p (live l c none).view tenant subject text = .ok none)
    (hacknowledged : ∃ offset,
      ((publish (.schema tenant subject text)).on (live l c none)).1 = .ok offset) :
    ∃ l', (Service.register p tenant subject text).on (live l c none) =
        (.ok (Schema.idAt (m.length tenant)), live l' c none) ∧
      l'.Holds (m.publish (.schema tenant subject text)) := by
  rw [Service.register_new hreview, Action.on_mapError]
  rcases publish_cases (r := .schema tenant subject text) hl hn c none with
    ⟨l', hpublish, hl'⟩ | ⟨e, l', hpublish, -⟩
  · rw [storeSchema_unbacked hpublish]
    exact ⟨l', rfl, hl'⟩
  · obtain ⟨offset, hoffset⟩ := hacknowledged
    rw [hpublish] at hoffset
    cases hoffset

end Storage

/-- What a registration has to do with a text that is new to its subject, by what the check of the
text says.  `m` is what the log holds before. -/
structure Foretold (p : Policy) (s : Storage) (m : MemoryLog) (tenant subject text : String)
    (check : Service.Result Bool) (served : Service.Result Int × Storage) : Prop where
  invalid : ∀ cause, check = .error (.invalidSchema cause) ↔
    served = (.error (.invalidSchema cause), s)
  accepted : check = .ok true ↔ ∃ l : Log, l.Holds (m.publish (.schema tenant subject text)) ∧
    served = (.ok (Schema.idAt (m.length tenant)), { s with log := some l })
  refused : check = .ok false ↔
    ∃ level, Service.effectiveLevel p s.view tenant subject = .ok level ∧
      served = (.error (.incompatible subject level), s)
  decided : (∃ cause, check = .error (.invalidSchema cause)) ∨ ∃ verdict, check = .ok verdict

namespace Foretold

variable {p : Policy} {s : Storage} {m : MemoryLog} {tenant subject text : String}

theorem of_invalid (cause : Json.Error) : Foretold p s m tenant subject text
    (.error (.invalidSchema cause)) (.error (.invalidSchema cause), s) where
  invalid := by simp
  accepted := by simp
  refused := by simp
  decided := .inl ⟨cause, rfl⟩

theorem of_accepted {l : Log} (hl : l.Holds (m.publish (.schema tenant subject text))) :
    Foretold p s m tenant subject text (.ok true)
      (.ok (Schema.idAt (m.length tenant)), { s with log := some l }) where
  invalid := by simp
  accepted := iff_of_true rfl ⟨l, hl, rfl⟩
  refused := by simp
  decided := .inr ⟨true, rfl⟩

theorem of_refused {level : Level}
    (h : Service.effectiveLevel p s.view tenant subject = .ok level) :
    Foretold p s m tenant subject text (.ok false) (.error (.incompatible subject level), s) where
  invalid := by simp
  accepted := by simp
  refused := iff_of_true rfl ⟨level, h, rfl⟩
  decided := .inr ⟨false, rfl⟩

end Foretold

namespace Durable

variable {d : Durable} {rs : List Record} {p : Policy} {tenant subject text : String}
  {latest : Schema}

theorem Lags.subject_eq (h : d.Lags rs) (tenant subject : String) :
    d.storage.cache.subject tenant subject =
      Stored.versions 0 (Change.storedIn tenant subject (d.replayed tenant (Change.of rs))) := by
  rw [(h.share tenant).subject, Cache.subject_replayed]

theorem Lags.view_eq (h : d.Lags rs) : d.storage.view = d.storage.cache.view := by
  obtain ⟨l, hstorage, -⟩ := h.storage
  rw [hstorage]
  rfl

theorem Lags.foretold (h : d.Lags rs) (hn : Record.Addressable rs)
    (hlatest : d.storage.view.latest? tenant subject = .ok (some latest))
    (hnew : ¬ d.storage.view.Has tenant subject text)
    (hacknowledged : ∃ offset,
      ((Storage.publish (.schema tenant subject text)).on d.storage).1 = .ok offset) :
    Foretold p d.storage (.of rs) tenant subject text
      (Service.checkCompatibility p d.storage.view tenant subject latest.version text)
      ((Service.register p tenant subject text).on d.storage) := by
  have hsubject := h.subject_eq tenant subject
  rw [h.view_eq] at hlatest hnew
  have htext := Cache.text?_latest hsubject hlatest
  have hfind := Cache.find?_of_not_has hsubject hnew
  have hlevel := Service.effectiveLevel_cache p d.storage.cache tenant subject
  rw [← h.view_eq] at hlatest htext hfind hlevel
  cases hparse : Json.parse (utf8 text) with
  | error cause =>
    rw [Service.checkCompatibility_unreadable hparse,
      Service.register_rejected (Service.review_unreadable hparse)]
    exact .of_invalid cause
  | ok value =>
    -- both hold the text against the latest version, under the same level
    rw [Service.checkCompatibility_eq ⟨value, hparse⟩ htext hlevel]
    have hreview := Service.review_new ⟨value, hparse⟩ hfind hlatest hlevel
    split at hreview
    · next hcompatible =>
      rw [hcompatible]
      obtain ⟨l, hstorage, hl⟩ := h.storage
      rw [hstorage] at hreview hacknowledged ⊢
      obtain ⟨l', hserved, hl'⟩ :=
        Storage.register_acknowledged hl (hn.offsets tenant) hreview hacknowledged
      rw [hserved]
      exact .of_accepted hl'
    · next hincompatible =>
      rw [Bool.not_eq_true] at hincompatible
      rw [hincompatible, Service.register_rejected hreview]
      exact .of_refused hlevel

theorem Lags.find?_of_has (h : d.Lags rs) (hhas : d.storage.view.Has tenant subject text) :
    ∃ schema, d.storage.view.find? tenant subject text = .ok (some schema) ∧
      d.storage.view.text? tenant subject schema.version = .ok (some text) := by
  rw [h.view_eq] at hhas ⊢
  exact Cache.find?_of_has (h.subject_eq tenant subject) hhas

theorem Lags.register_has (h : d.Lags rs) (hhas : d.storage.view.Has tenant subject text)
    (hparsed : ∃ value, Json.parse (utf8 text) = .ok value) :
    ∃ schema, d.storage.view.find? tenant subject text = .ok (some schema) ∧
      d.storage.view.text? tenant subject schema.version = .ok (some text) ∧
      (Service.register p tenant subject text).on d.storage = (.ok schema.id, d.storage) := by
  obtain ⟨schema, hfind, htext⟩ := h.find?_of_has hhas
  exact ⟨schema, hfind, htext, Service.register_known (Service.review_known hparsed hfind)⟩

/-- Whatever has been written and replayed, the check of a text against the latest version of a
subject tells what registering the text does, unless the subject has the text: then it keeps its id,
if it is JSON, whatever the check says. -/
theorem steps_foretold (p : Policy) {l : Log} (hl : l.New) {steps : List Step}
    (hn : Record.Addressable (steps.filterMap Step.record?)) {s : Storage}
    (hs : (steps.foldl step (startCached l)).storage = s) :
    ∃ l' m, s.log = some l' ∧ l'.Holds m ∧ ∀ tenant subject latest,
      s.view.latest? tenant subject = .ok (some latest) → ∀ text,
      let check := Service.checkCompatibility p s.view tenant subject latest.version text
      let served := (Service.register p tenant subject text).on s
      (¬ s.view.Has tenant subject text →
        (∃ offset, ((Storage.publish (.schema tenant subject text)).on s).1 = .ok offset) →
        Foretold p s m tenant subject text check served) ∧
      (s.view.Has tenant subject text →
        (∀ value, Json.parse (utf8 text) = .ok value → ∃ schema,
          s.view.find? tenant subject text = .ok (some schema) ∧
          s.view.text? tenant subject schema.version = .ok (some text) ∧
          served = (.ok schema.id, s)) ∧
        ∀ cause, Json.parse (utf8 text) = .error cause →
          check = .error (.invalidSchema cause) ∧ served = (.error (.invalidSchema cause), s)) := by
  subst hs
  obtain ⟨rs, hrs, h⟩ := (lags_start hl).steps steps hn
  rw [List.nil_append] at h
  have hrs := hn.sublist hrs
  obtain ⟨l', hstorage, hl'⟩ := h.storage
  refine ⟨l', .of rs, congrArg (·.log) hstorage, hl', fun tenant subject latest hlatest text => ?_⟩
  refine ⟨h.foretold hrs hlatest, fun hhas => ⟨fun value hparse => ?_, fun cause hparse => ?_⟩⟩
  · exact h.register_has hhas ⟨value, hparse⟩
  · exact ⟨Service.checkCompatibility_unreadable hparse,
      Service.register_rejected (Service.review_unreadable hparse)⟩

theorem steps_foretold_lagging :
    let p : Policy := ⟨.recordFields, .none⟩
    let a := "\x7b\"fields\":[]\x7d"
    let b := "\x7b\"fields\":[\x7b\"name\":\"n\"\x7d]\x7d"
    let steps : List Step := [.write (.subjectConfig "t" "s" .backward), .write (.schema "t" "s" a),
      .poll "t" 2, .write (.schema "t" "s" b), .write (.subjectConfig "t" "s" .none)]
    Record.Addressable (steps.filterMap Step.record?) ∧
    ∃ s, (steps.foldl step (startCached (.memory ∅))).storage = s ∧
      s.view.latest? "t" "s" = .ok (some ⟨"s", 2, 1, a⟩) ∧ s.view.Has "t" "s" a ∧
      ¬ s.view.Has "t" "s" b ∧
      ((Storage.publish (.schema "t" "s" b)).on s).1 = .ok (some 4) ∧
      Service.checkCompatibility p s.view "t" "s" 1 b = .ok false ∧
      (Service.register p "t" "s" b).on s = (.error (.incompatible "s" .backward), s) ∧
      (Service.register p "t" "s" a).on s = (.ok 2, s) := by
  intro p a b steps
  have hn : Record.Addressable (steps.filterMap Step.record?) := .of_length (by decide)
  obtain ⟨s, hs, hlatest, hfirst, htext, hnone, hpublished, hcheck, hbackward⟩ :
      ∃ s, (steps.foldl step (startCached (.memory ∅))).storage = s ∧
        s.view.latest? "t" "s" = .ok (some ⟨"s", 2, 1, a⟩) ∧
        s.view.find? "t" "s" a = .ok (some ⟨"s", 2, 1, a⟩) ∧
        s.view.text? "t" "s" 1 = .ok (some a) ∧ s.view.find? "t" "s" b = .ok none ∧
        ((Storage.publish (.schema "t" "s" b)).on s).1 = .ok (some 4) ∧
        Service.checkCompatibility p s.view "t" "s" 1 b = .ok false ∧
        Service.effectiveLevel p s.view "t" "s" = .ok .backward := by
    refine ⟨_, rfl, ?_⟩
    decide +kernel
  obtain ⟨value, hparse⟩ : ∃ value, Json.parse (utf8 a) = .ok value :=
    Service.checkSyntax_eq_ok.1 (by decide +kernel)
  have hhas : s.view.Has "t" "s" a := ⟨1, htext⟩
  have hnew : ¬ s.view.Has "t" "s" b := fun hhas => by
    obtain ⟨rs, -, h⟩ := (lags_start .memory).steps steps hn
    rw [← hs] at hhas hnone
    obtain ⟨schema, hfind, -⟩ := h.find?_of_has hhas
    cases hnone.symm.trans hfind
  obtain ⟨l, m, -, -, hall⟩ := steps_foretold p .memory hn hs
  obtain ⟨hforetold, -⟩ := hall "t" "s" _ hlatest b
  obtain ⟨level, hlevel, hrefused⟩ := (hforetold hnew ⟨_, hpublished⟩).refused.1 hcheck
  cases hbackward.symm.trans hlevel
  obtain ⟨-, hknown⟩ := hall "t" "s" _ hlatest a
  obtain ⟨schema, hfind, -, hserved⟩ := (hknown hhas).1 value hparse
  cases hfirst.symm.trans hfind
  exact ⟨hn, s, hs, hlatest, hhas, hnew, hpublished, hcheck, hrefused, hserved⟩

/-- The version with this text is in the log, and is no JSON. -/
theorem register_has_refused :
    let p : Policy := ⟨.recordFields, .none⟩
    let s := ([Step.write (.schema "acme" "orders" "x"), .poll "acme" 500].foldl step
      (startCached (.memory ∅))).storage
    s.view.latest? "acme" "orders" = .ok (some ⟨"orders", 1, 1, "x"⟩) ∧
    s.view.Has "acme" "orders" "x" ∧
    ∃ cause, (Service.register p "acme" "orders" "x").on s =
      (.error (.invalidSchema cause), s) := by
  intro p s
  have htext : s.view.text? "acme" "orders" 1 = .ok (some "x") := by decide +kernel
  refine ⟨by decide +kernel, Exists.intro 1 htext, ?_⟩
  exact ⟨_, Service.register_rejected (Service.review_unreadable rfl)⟩

end Durable

end SchemaRegistry
