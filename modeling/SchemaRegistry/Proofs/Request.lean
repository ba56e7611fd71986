import Mathlib.Data.List.Induction
import SchemaRegistry.Proofs.Durable
import SchemaRegistry.Service

/-!
Calls that change a registry.  What is stored has passed every check; what is known already keeps
its id; a call that fails changes nothing.  What has been written can be told from the answers
alone.
-/

namespace SchemaRegistry

open Change (stored storedIn)
open View (seen)

def Policy.level (p : Policy) (own tenants : Option Level) : Level :=
  (own.or tenants).getD p.defaultLevel

/-- The level of a subject that changes in front show, and else those in the back. -/
def Policy.levelShown (p : Policy) (tenant subject : String) (front back : List Change) : Level :=
  p.level (seen (front.filterMap (Change.subjectLevel? tenant subject))
      (back.filterMap (Change.subjectLevel? tenant subject))).getLast?
    (seen (front.filterMap (Change.globalLevel? tenant))
      (back.filterMap (Change.globalLevel? tenant))).getLast?

def Policy.levelAfter (p : Policy) (tenant subject : String) (changes : List Change) : Level :=
  p.level (changes.filterMap (Change.subjectLevel? tenant subject)).getLast?
    (changes.filterMap (Change.globalLevel? tenant)).getLast?

theorem Policy.levelShown_self (p : Policy) (tenant subject : String) (changes : List Change) :
    p.levelShown tenant subject changes changes = p.levelAfter tenant subject changes := by
  rw [levelShown, View.seen_self, View.seen_self, levelAfter]

/-- A view that finds all schemas by their text, and shows the latest schema and the levels of the
changes in front, if they have any. -/
structure View.Tells (v : View) (tenant : String) (front back : List Change) : Prop where
  find : ∀ subject text, v.find? tenant subject text =
    .ok ((Stored.versions 0 (storedIn tenant subject back)).find? (·.text = text))
  latest : ∀ subject, v.latest? tenant subject =
    let xs := seen (storedIn tenant subject front) (storedIn tenant subject back)
    .ok (xs.getLast?.map fun x => ⟨x.subject, x.id, xs.length, x.text⟩)
  globalLevel : v.globalLevel? tenant = .ok (seen (front.filterMap (Change.globalLevel? tenant))
    (back.filterMap (Change.globalLevel? tenant))).getLast?
  subjectLevel : ∀ subject, v.subjectLevel? tenant subject =
    .ok (seen (front.filterMap (Change.subjectLevel? tenant subject))
      (back.filterMap (Change.subjectLevel? tenant subject))).getLast?

namespace Service

variable {p : Policy} {v : View} {tenant subject text : String} {front back : List Change}

theorem checkSyntax_eq_ok :
    checkSyntax text = .ok () ↔ ∃ value, Json.parse (utf8 text) = .ok value := by
  rw [checkSyntax]
  cases Json.parse (utf8 text) <;> simp

theorem effectiveLevel_eq (p : Policy) (h : v.Tells tenant front back) (subject : String) :
    effectiveLevel p v tenant subject = .ok (p.levelShown tenant subject front back) := by
  simp only [effectiveLevel, h.subjectLevel, found, bind, Except.bind, Policy.levelShown]
  cases (seen (front.filterMap (Change.subjectLevel? tenant subject))
    (back.filterMap (Change.subjectLevel? tenant subject))).getLast? with
  | some level => rfl
  | none =>
    simp only [globalLevel, h.globalLevel, found, bind, Except.bind]
    rfl

theorem review_eq_some (h : v.Tells tenant front back) {id : Int}
    (hreview : review p v tenant subject text = .ok (some id)) :
    ∃ x ∈ storedIn tenant subject back, x.text = text ∧ x.id = id := by
  cases hsyntax : checkSyntax text with
  | error e => simp [review, hsyntax, bind, Except.bind] at hreview
  | ok =>
    simp only [review, hsyntax, h.find, found, bind, Except.bind] at hreview
    cases hfind : (Stored.versions 0 (storedIn tenant subject back)).find? (·.text = text) with
    | some schema =>
      rw [hfind] at hreview
      cases hreview
      obtain ⟨x, hx, hid, htext⟩ := Stored.exists_of_mem_versions (List.mem_of_find?_eq_some hfind)
      have hfound := List.find?_some hfind
      exact ⟨x, hx, htext.trans (by simpa using hfound), hid⟩
    | none =>
      simp only [hfind, h.latest, effectiveLevel_eq p h] at hreview
      cases hlast : (seen (storedIn tenant subject front)
        (storedIn tenant subject back)).getLast? with
      | none =>
        rw [hlast] at hreview
        cases hreview
      | some y =>
        simp only [hlast, Option.map_some] at hreview
        split at hreview <;> cases hreview

theorem review_known (hparsed : ∃ value, Json.parse (utf8 text) = .ok value) {schema : Schema}
    (hfind : v.find? tenant subject text = .ok (some schema)) :
    review p v tenant subject text = .ok (some schema.id) := by
  have hsyntax := checkSyntax_eq_ok.2 hparsed
  simp only [review, hsyntax, hfind, found, bind, Except.bind]
  rfl

theorem review_found (h : v.Tells tenant front back)
    (hparsed : ∃ value, Json.parse (utf8 text) = .ok value) {schema : Schema}
    (hfind : (Stored.versions 0 (storedIn tenant subject back)).find? (·.text = text) =
      some schema) :
    review p v tenant subject text = .ok (some schema.id) :=
  review_known hparsed ((h.find subject text).trans (congrArg Except.ok hfind))

theorem review_eq_none (h : v.Tells tenant front back)
    (hreview : review p v tenant subject text = .ok none) :
    (∃ value, Json.parse (utf8 text) = .ok value) ∧
      (∀ x ∈ storedIn tenant subject back, x.text ≠ text) ∧
      ∀ x ∈ (seen (storedIn tenant subject front) (storedIn tenant subject back)).getLast?,
        p.rules.isCompatible text x.text (p.levelShown tenant subject front back) := by
  cases hsyntax : checkSyntax text with
  | error e => simp [review, hsyntax, bind, Except.bind] at hreview
  | ok =>
    simp only [review, hsyntax, h.find, found, bind, Except.bind] at hreview
    cases hfind : (Stored.versions 0 (storedIn tenant subject back)).find? (·.text = text) with
    | some schema =>
      rw [hfind] at hreview
      cases hreview
    | none =>
      refine ⟨checkSyntax_eq_ok.1 hsyntax, Stored.find?_text_eq_none.1 hfind, fun y hy => ?_⟩
      simp only [hfind, h.latest, effectiveLevel_eq p h, Option.mem_def.1 hy,
        Option.map_some] at hreview
      split at hreview
      · next hcompatible => exact hcompatible
      · cases hreview

variable {s : Storage}

theorem register_rejected {e : ServiceError} (h : review p s.view tenant subject text = .error e) :
    (register p tenant subject text).on s = (.error e, s) := by
  simp only [register, Action.on_bind, Action.on_ask, h]

theorem register_known {id : Int} (h : review p s.view tenant subject text = .ok (some id)) :
    (register p tenant subject text).on s = (.ok id, s) := by
  simp only [register, Action.on_bind, Action.on_ask, h]
  rfl

theorem register_new (h : review p s.view tenant subject text = .ok none) :
    (register p tenant subject text).on s =
      ((Storage.storeSchema tenant subject text).mapError .storage).on s := by
  simp only [register, Action.on_bind, Action.on_ask, h]

end Service

inductive Request
  | register (tenant subject text : String)
  | setGlobalLevel (tenant : String) (level : Level)
  | setSubjectLevel (tenant subject : String) (level : Level)
  deriving DecidableEq, Repr

inductive Reply
  | id (id : Int)
  | level (setting : LevelSetting)
  deriving DecidableEq, Repr

namespace Request

def tenant : Request → String
  | register tenant .. => tenant
  | setGlobalLevel tenant _ => tenant
  | setSubjectLevel tenant .. => tenant

def record : Request → Record
  | register tenant subject text => .schema tenant subject text
  | setGlobalLevel tenant level => .globalConfig tenant level
  | setSubjectLevel tenant subject level => .subjectConfig tenant subject level

@[simp] theorem stream_record (r : Request) : r.record.stream = r.tenant := by cases r <;> rfl

def serve (p : Policy) : Request → Action Storage ServiceError Reply
  | register tenant subject text => return .id (← Service.register p tenant subject text)
  | setGlobalLevel tenant level => return .level (← Service.setGlobalLevel tenant level)
  | setSubjectLevel tenant subject level =>
    return .level (← Service.setSubjectLevel tenant subject level)

def review (p : Policy) (v : View) : Request → Service.Result (Option Int)
  | register tenant subject text => Service.review p v tenant subject text
  | setGlobalLevel .. => .ok none
  | setSubjectLevel .. => .ok none

def reply (offset : Nat) : Request → Reply
  | register .. => .id (Schema.idAt offset)
  | setGlobalLevel _ level => .level ⟨level⟩
  | setSubjectLevel _ _ level => .level ⟨level⟩

variable {p : Policy} {r : Request} {s s' : Storage}

theorem serve_rejected {e : ServiceError} (h : r.review p s.view = .error e) :
    (r.serve p).on s = (.error e, s) := by
  cases r with
  | register tenant subject text =>
    rw [review] at h
    rw [serve, Action.on_bind, Service.register_rejected h]
  | setGlobalLevel => cases h
  | setSubjectLevel => cases h

theorem serve_known {id : Int} (h : r.review p s.view = .ok (some id)) :
    (r.serve p).on s = (.ok (.id id), s) := by
  cases r with
  | register tenant subject text =>
    rw [review] at h
    rw [serve, Action.on_bind, Service.register_known h]
    rfl
  | setGlobalLevel => cases h
  | setSubjectLevel => cases h

theorem serve_refused {e : StorageError} (h : r.review p s.view = .ok none)
    (hwrite : r.record.write.on s = (.error e, s')) :
    (r.serve p).on s = (.error (.storage e), s') := by
  cases r with
  | register tenant subject text =>
    rw [review] at h
    have hstore := Action.on_bind_pure_eq_error.1 hwrite
    rw [serve, Action.on_bind, Service.register_new h, Action.on_mapError, hstore]
    rfl
  | setGlobalLevel tenant level =>
    have hset := Action.on_bind_pure_eq_error.1 hwrite
    simp only [serve, Service.setGlobalLevel, Action.on_bind, Action.on_mapError, hset]
    rfl
  | setSubjectLevel tenant subject level =>
    have hset := Action.on_bind_pure_eq_error.1 hwrite
    simp only [serve, Service.setSubjectLevel, Action.on_bind, Action.on_mapError, hset]
    rfl

theorem serve_written {offset : Nat} (h : r.review p s.view = .ok none)
    (hwrite : r.record.write.on s = (.ok (r.record.change offset), s')) :
    (r.serve p).on s = (.ok (r.reply offset), s') := by
  cases r with
  | register tenant subject text =>
    rw [review] at h
    obtain ⟨id, t, hstore, hreturn⟩ := Action.on_bind_eq_ok.1 hwrite
    cases hreturn
    rw [serve, Action.on_bind, Service.register_new h, Action.on_mapError, hstore]
    rfl
  | setGlobalLevel tenant level =>
    obtain ⟨_, t, hset, hreturn⟩ := Action.on_bind_eq_ok.1 hwrite
    cases hreturn
    simp only [serve, Service.setGlobalLevel, Action.on_bind, Action.on_mapError, hset]
    rfl
  | setSubjectLevel tenant subject level =>
    obtain ⟨_, t, hset, hreturn⟩ := Action.on_bind_eq_ok.1 hwrite
    cases hreturn
    simp only [serve, Service.setSubjectLevel, Action.on_bind, Action.on_mapError, hset]
    rfl

/-- What comes of a request that the backend would accept: it fails and changes nothing, or it finds
that nothing is to be written, or it has passed the review and is written. -/
theorem serve_cases {l : Log} {m : MemoryLog} {c : Cache} {b b' : Option Backend} (hl : l.Holds m)
    (hn : m.length r.tenant ≤ Frame.offsets)
    (hb : Storage.behind b (r.record.change (m.length r.tenant)) = .ok b') :
    (∃ e l', (r.serve p).on (.live l c b) = (.error e, .live l' c b) ∧ l'.Holds m) ∨
    (∃ id, r.review p (Storage.live l c b).view = .ok (some id) ∧
      (r.serve p).on (.live l c b) = (.ok (.id id), .live l c b)) ∨
    ∃ l', r.review p (Storage.live l c b).view = .ok none ∧
      r.record.write.on (.live l c b) = (.ok (r.record.change (m.length r.tenant)), .live l' c b') ∧
      (r.serve p).on (.live l c b) = (.ok (r.reply (m.length r.tenant)), .live l' c b') ∧
      l'.Holds (m.publish r.record) := by
  rw [← r.stream_record] at hn hb ⊢
  rcases hreview : r.review p (Storage.live l c b).view with e | ⟨_ | id⟩
  · exact .inl ⟨e, l, serve_rejected hreview, hl⟩
  · rcases Storage.write_cases hl hn hb c with ⟨l', hwrite, hl'⟩ | ⟨e, l', hwrite, hl'⟩
    · exact .inr (.inr ⟨l', rfl, hwrite, serve_written hreview hwrite, hl'⟩)
    · exact .inl ⟨.storage e, l', serve_refused hreview hwrite, hl'⟩
  · exact .inr (.inl ⟨id, rfl, serve_known hreview⟩)

end Request

structure Served where
  request : Request
  /-- How much of its tenant's stream had been replayed by then. -/
  passed : Nat
  answer : Service.Result Reply
  deriving DecidableEq

namespace Served

/-- The change that a request made.  A text that a subject had before is not stored again. -/
def made (before : List Change) (x : Served) : Option Change :=
  match x.request, x.answer with
  | .register tenant subject text, .ok (.id id) =>
    if ∃ y ∈ storedIn tenant subject before, y.text = text then none
    else some (.schema tenant subject id text)
  | .setGlobalLevel tenant level, .ok _ => some (.globalLevel tenant level)
  | .setSubjectLevel tenant subject level, .ok _ => some (.subjectLevel tenant subject level)
  | _, _ => none

def changes (trace : List Served) : List Change :=
  trace.foldl (fun before x => before ++ (x.made before).toList) []

variable {tenant subject : String} {before : List Change} {trace : List Served} {x : Served}

theorem changes_concat (trace : List Served) (x : Served) :
    changes (trace ++ [x]) = changes trace ++ (x.made (changes trace)).toList := by
  rw [changes, List.foldl_append]
  rfl

theorem isPrefix_foldl (f : List Change → Served → List Change) (trace : List Served)
    (before : List Change) :
    before <+: trace.foldl (fun before x => before ++ f before x) before := by
  induction trace generalizing before with
  | nil => exact List.prefix_refl before
  | cons x trace ih => exact (List.prefix_append ..).trans (ih _)

theorem changes_isPrefix (trace more : List Served) :
    changes trace <+: changes (trace ++ more) := by
  rw [changes, changes, List.foldl_append]
  exact isPrefix_foldl (fun before x => (x.made before).toList) more _

theorem made_error {e : ServiceError} (h : x.answer = .error e) : x.made before = none := by
  obtain ⟨request, passed, answer⟩ := x
  cases h
  cases request <;> rfl

theorem made_known {text : String} (hrequest : x.request = .register tenant subject text)
    (h : ∃ y ∈ storedIn tenant subject before, y.text = text) : x.made before = none := by
  obtain ⟨request, passed, answer⟩ := x
  cases hrequest
  rcases answer with e | ⟨id | setting⟩
  · rfl
  · exact if_pos h
  · rfl

theorem made_new {id : Int} {text : String} (hrequest : x.request = .register tenant subject text)
    (hanswer : x.answer = .ok (.id id))
    (hnew : ∀ y ∈ storedIn tenant subject before, y.text ≠ text) :
    x.made before = some (.schema tenant subject id text) := by
  obtain ⟨request, passed, answer⟩ := x
  cases hrequest
  cases hanswer
  refine if_neg ?_
  rintro ⟨y, hy, htext⟩
  exact hnew y hy htext

theorem made_written {offset : Nat} (hanswer : x.answer = .ok (x.request.reply offset))
    (hnew : ∀ tenant subject text, x.request = .register tenant subject text →
      ∀ y ∈ storedIn tenant subject before, y.text ≠ text) :
    x.made before = some (x.request.record.change offset) := by
  obtain ⟨request, passed, answer⟩ := x
  simp only at hanswer hnew
  subst hanswer
  cases request with
  | register tenant subject text => exact made_new rfl rfl (hnew tenant subject text rfl)
  | setGlobalLevel => rfl
  | setSubjectLevel => rfl

theorem of_made {id : Int} {text : String}
    (h : x.made before = some (.schema tenant subject id text)) :
    x.request = .register tenant subject text ∧ x.answer = .ok (.id id) := by
  obtain ⟨request, passed, answer⟩ := x
  rcases request with ⟨t, u, given⟩ | ⟨t, level⟩ | ⟨t, u, level⟩ <;>
    rcases answer with e | ⟨i | setting⟩
  · cases h
  · obtain ⟨-, hsome⟩ := Option.ite_none_left_eq_some.1 h
    cases hsome
    exact ⟨rfl, rfl⟩
  all_goals cases h

theorem made_of_mem_storedIn {y : Stored} (h : y ∈ storedIn tenant subject (x.made before).toList) :
    x.made before = some (.schema tenant subject y.id y.text) :=
  Option.mem_toList.1 (Change.schema_of_mem_storedIn h)

theorem of_storedIn_made {pre post : List Stored} {new : Stored}
    (h : storedIn tenant subject (x.made before).toList = pre ++ new :: post) :
    pre = [] ∧ x.made before = some (.schema tenant subject new.id new.text) := by
  have hmem : new ∈ storedIn tenant subject (x.made before).toList := by simp [h]
  have hmade := made_of_mem_storedIn hmem
  refine ⟨?_, hmade⟩
  have hlength := Change.length_storedIn_le tenant subject (x.made before).toList
  rw [h, hmade, List.length_append, List.length_cons, Option.toList_some,
    List.length_singleton] at hlength
  exact List.length_eq_zero_iff.1 (by omega)

theorem exists_made {pre post : List Stored} {new : Stored}
    (h : storedIn tenant subject (changes trace) = pre ++ new :: post) :
    ∃ done x rest, trace = done ++ x :: rest ∧ storedIn tenant subject (changes done) = pre ∧
      x.made (changes done) = some (.schema tenant subject new.id new.text) := by
  induction trace using List.reverseRecOn generalizing post with
  | nil => simp [changes, storedIn, stored] at h
  | append_singleton trace x ih =>
    rw [changes_concat, Change.storedIn_append] at h
    rcases List.append_eq_append_iff.1 h with ⟨more, rfl, hnew⟩ | ⟨_ | ⟨y, more⟩, hpre, hnew⟩
    · obtain ⟨rfl, hmade⟩ := of_storedIn_made hnew
      exact ⟨trace, x, [], rfl, (List.append_nil _).symm, hmade⟩
    · have hnew : storedIn tenant subject (x.made (changes trace)).toList = [] ++ new :: post :=
        hnew.symm
      obtain ⟨-, hmade⟩ := of_storedIn_made hnew
      exact ⟨trace, x, [], rfl, hpre.trans (List.append_nil _), hmade⟩
    · -- it was there before the last request
      rw [List.cons_append, List.cons.injEq] at hnew
      obtain ⟨rfl, rfl⟩ := hnew
      obtain ⟨done, x', rest, rfl, hdone, hmade⟩ := ih hpre
      exact ⟨done, x', rest ++ [x], by simp, hdone, hmade⟩

/-- The schema that a request stored, if it did, had passed every check: it is JSON, it is new to
its subject, and it may follow the latest schema that was shown, under the level that was shown. -/
def Checked (p : Policy) (front before : List Change) (x : Served) : Prop :=
  ∀ tenant subject id text, x.made before = some (.schema tenant subject id text) →
    (∃ value, Json.parse (utf8 text) = .ok value) ∧
    (∀ y ∈ storedIn tenant subject before, y.text ≠ text) ∧
    ∀ y ∈ (seen (storedIn tenant subject front) (storedIn tenant subject before)).getLast?,
      p.rules.isCompatible text y.text (p.levelShown tenant subject front before)

def Answered (after : List Change) (x : Served) : Prop :=
  ∀ tenant subject text id, x.request = .register tenant subject text → x.answer = .ok (.id id) →
    ∃ y ∈ storedIn tenant subject after, y.text = text ∧ y.id = id

theorem Answered.sublist {after : List Change} (h : x.Answered before)
    (hsub : before.Sublist after) :
    x.Answered after := fun tenant subject text id hrequest hanswer => by
  obtain ⟨y, hy, hsame⟩ := h tenant subject text id hrequest hanswer
  exact ⟨y, (Change.storedIn_sublist hsub tenant subject).subset hy, hsame⟩

theorem Checked.of_none {p : Policy} {front : List Change} (h : x.made before = none) :
    x.Checked p front before := fun _ _ _ _ hmade => by
  rw [h] at hmade
  cases hmade

theorem exists_served {p : Policy} {r : Request} {l : Log} {m : MemoryLog} {c : Cache}
    {b b' : Option Backend} {front : List Change} (hl : l.Holds m)
    (hn : m.length r.tenant ≤ Frame.offsets)
    (hb : Storage.behind b (r.record.change (m.length r.tenant)) = .ok b')
    (htells : (Storage.live l c b).view.Tells r.tenant front before) (passed : Nat) :
    ∃ answer s', (r.serve p).on (.live l c b) = (answer, s') ∧
      ∃ x : Served, x = ⟨r, passed, answer⟩ ∧ x.Checked p front before ∧
        x.Answered (before ++ (x.made before).toList) ∧
        ((x.made before = none ∧ ∃ l', s' = .live l' c b ∧ l'.Holds m) ∨
          x.made before = some (r.record.change (m.length r.tenant)) ∧
            r.record.write.on (.live l c b) = (.ok (r.record.change (m.length r.tenant)), s') ∧
            ∃ l', s' = .live l' c b' ∧ l'.Holds (m.publish r.record)) := by
  rcases Request.serve_cases (p := p) (c := c) hl hn hb with
    ⟨e, l', hserve, hl'⟩ | ⟨id, hreview, hserve⟩ | ⟨l', hreview, hwrite, hserve, hl'⟩
  · have hmade : made before ⟨r, passed, .error e⟩ = none := made_error rfl
    refine ⟨_, _, hserve, _, rfl, .of_none hmade, ?_, .inl ⟨hmade, l', rfl, hl'⟩⟩
    rintro tenant subject text id - ⟨⟩
  · cases r with
    | register tenant subject text =>
      obtain ⟨y, hy, htext, hid⟩ :
          ∃ y ∈ storedIn tenant subject before, y.text = text ∧ y.id = id :=
        Service.review_eq_some htells hreview
      have hmade : made before ⟨.register tenant subject text, passed, .ok (.id id)⟩ = none :=
        made_known rfl ⟨y, hy, htext⟩
      refine ⟨_, _, hserve, _, rfl, .of_none hmade, ?_, .inl ⟨hmade, l, rfl, hl⟩⟩
      rintro _ _ _ _ ⟨⟩ ⟨⟩
      rw [hmade, Option.toList_none, List.append_nil]
      exact ⟨y, hy, htext, hid⟩
    | setGlobalLevel => cases hreview
    | setSubjectLevel => cases hreview
  · have hreviewed {subject text : String} (hr : r = .register r.tenant subject text) :
        Service.review p (Storage.live l c b).view r.tenant subject text = .ok none := by
      rw [hr] at hreview
      exact hreview
    have hmade : made before ⟨r, passed, .ok (r.reply (m.length r.tenant))⟩ =
        some (r.record.change (m.length r.tenant)) := by
      refine made_written rfl ?_
      rintro tenant subject text (rfl : r = _)
      exact (Service.review_eq_none htells (hreviewed rfl)).2.1
    refine ⟨_, _, hserve, _, rfl, fun tenant subject id text h => ?_,
      fun tenant subject text id hr ha => ?_, .inr ⟨hmade, hwrite, l', rfl, hl'⟩⟩
    · obtain ⟨rfl, -⟩ : r = .register tenant subject text ∧ _ := of_made h
      exact Service.review_eq_none htells (hreviewed rfl)
    · rw [hmade]
      obtain rfl : r = .register tenant subject text := hr
      cases ha
      exact ⟨⟨subject, _, text⟩,
        Change.mem_storedIn (List.mem_append_right _ (List.mem_singleton.2 rfl)), rfl, rfl⟩

/-- Every schema that was stored had been checked, and every id that was returned is that of a
stored schema.  What had been replayed by the time of a request is given by `front`. -/
structure Sound (p : Policy) (front : Served → List Change → List Change) (trace : List Served) :
    Prop where
  checked : ∀ done x, done ++ [x] <+: trace → x.Checked p (front x (changes done)) (changes done)
  answered : ∀ x ∈ trace, x.Answered (changes trace)

variable {p : Policy} {front : Served → List Change → List Change}

theorem sound_nil (p : Policy) (front : Served → List Change → List Change) : Sound p front [] where
  checked done x h := by simp at h
  answered _ hx := absurd hx List.not_mem_nil

theorem Sound.concat (h : Sound p front trace)
    (hchecked : x.Checked p (front x (changes trace)) (changes trace))
    (hanswered : x.Answered (changes (trace ++ [x]))) : Sound p front (trace ++ [x]) where
  checked done y hdone := by
    rcases List.prefix_concat_iff.1 hdone with heq | hdone
    · obtain ⟨rfl, hxy⟩ := List.append_inj' heq rfl
      cases hxy
      exact hchecked
    · exact h.checked done y hdone
  answered := by
    rw [List.forall_mem_append, List.forall_mem_singleton]
    exact ⟨fun y hy => (h.answered y hy).sublist (changes_isPrefix trace [x]).sublist, hanswered⟩

theorem Sound.exists_registration (h : Sound p front trace) {pre post : List Stored} {new : Stored}
    (hstored : storedIn tenant subject (changes trace) = pre ++ new :: post) :
    ∃ done x rest, trace = done ++ x :: rest ∧ x.request = .register tenant subject new.text ∧
      x.answer = .ok (.id new.id) ∧ storedIn tenant subject (changes done) = pre ∧
      (∃ value, Json.parse (utf8 new.text) = .ok value) ∧ (∀ y ∈ pre, y.text ≠ new.text) ∧
      ∀ y ∈ (seen (storedIn tenant subject (front x (changes done))) pre).getLast?,
        p.rules.isCompatible new.text y.text
          (p.levelShown tenant subject (front x (changes done)) (changes done)) := by
  obtain ⟨done, x, rest, rfl, hdone, hmade⟩ := exists_made hstored
  obtain ⟨hrequest, hanswer⟩ := of_made hmade
  have hprefix : done ++ [x] <+: done ++ x :: rest := ⟨rest, by simp⟩
  have hchecked := h.checked done x hprefix _ _ _ _ hmade
  rw [hdone] at hchecked
  exact ⟨done, x, rest, rfl, hrequest, hanswer, hdone, hchecked⟩

theorem Sound.parsed (h : Sound p front trace) {y : Stored}
    (hy : y ∈ storedIn tenant subject (changes trace)) :
    ∃ value, Json.parse (utf8 y.text) = .ok value := by
  obtain ⟨pre, post, hsplit⟩ := List.append_of_mem hy
  obtain ⟨-, -, -, -, -, -, -, hparsed, -⟩ := h.exists_registration hsplit
  exact hparsed

theorem Sound.distinct (h : Sound p front trace) (tenant subject : String) :
    ((storedIn tenant subject (changes trace)).map (·.text)).Nodup := by
  rw [List.Nodup, List.pairwise_map, List.pairwise_iff_getElem]
  intro i j hi hj hij
  have hsplit := (List.take_append_drop j (storedIn tenant subject (changes trace))).symm
  rw [List.drop_eq_getElem_cons hj] at hsplit
  obtain ⟨-, -, -, -, -, -, -, -, hnew, -⟩ := h.exists_registration hsplit
  exact hnew _ (List.mem_take_iff_getElem.2 ⟨i, by omega, rfl⟩)

end Served

end SchemaRegistry
