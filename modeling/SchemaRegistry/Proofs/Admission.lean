import SchemaRegistry.Proofs.Outcome
import SchemaRegistry.Proofs.Revocation

/-!
Whoever the gate admits has a token that the token store issued to that very name.  The token may be
known from the cache, which has it from a replay or from an earlier admission, or from the store
itself: neither log nor cache nor store ever has another user.
-/

namespace SchemaRegistry

namespace Replayer

variable {σ : Type} {r : Replayer σ} {I : σ → Prop} {P : Change → Prop} {s : σ}

theorem applyEntry_keeps (hchange : ∀ change, P change → ∀ s, I s → I ((r.change change).on s).2)
    {e : Entry} (he : ∀ change, e.change? = some change → P change) (hs : I s) :
    I (r.applyEntry s e).2 := by
  unfold Entry.change? at he
  unfold applyEntry
  cases hdecode : Record.decode e.key e.value with
  | error => exact hs
  | ok record =>
    have hkept := hchange _ (he _ (by rw [hdecode])) s hs
    rcases hon : (r.change (record.change e.offset)).on s with ⟨cause | ⟨⟩, s'⟩
    · rw [hon] at hkept
      simpa only [hon] using hkept
    · rw [hon] at hkept
      simpa only [hon] using hkept

theorem applyBatch_keeps (hchange : ∀ change, P change → ∀ s, I s → I ((r.change change).on s).2)
    {es : List Entry} (hes : ∀ change ∈ es.filterMap Entry.change?, P change) (c : Cursor)
    (hs : I s) : I (r.applyBatch es c s).2.2 := by
  induction es generalizing c s with
  | nil => exact hs
  | cons e es ih =>
    have hfirst : ∀ change, e.change? = some change → P change := fun change he =>
      hes change (List.mem_filterMap.2 ⟨e, List.mem_cons_self, he⟩)
    have hrest : ∀ change ∈ es.filterMap Entry.change?, P change := fun change hmem =>
      hes change (((List.sublist_cons_self e es).filterMap _).subset hmem)
    exact ih hrest { c with next := e.offset + 1 } (applyEntry_keeps hchange hfirst hs)

theorem poll_keeps (hchange : ∀ change, P change → ∀ s, I s → I ((r.change change).on s).2)
    (hfetch : ∀ s, I s → ∀ stream start max, ∃ answer s',
      (r.fetch stream start max).on s = (answer, s') ∧ I s' ∧
      ∀ es, answer = .ok es → ∀ change ∈ es.filterMap Entry.change?, P change)
    (c : Cursor) (max : Nat) (hs : I s) : I ((r.poll c max).on s).2 := by
  obtain ⟨answer, s', hon, hs', hes⟩ := hfetch s hs c.stream c.next max
  rw [poll, Action.on_bind, hon]
  cases answer with
  | error => exact hs'
  | ok es => exact applyBatch_keeps hchange (hes es rfl) c hs'

theorem advance_keeps {max : Nat} (hpoll : ∀ c s, I s → I ((r.poll c max).on s).2) (fuel : Nat)
    (c : Cursor) (hs : I s) : I (r.advance max fuel c s).2.2.2 := by
  induction fuel generalizing c s with
  | zero => exact hs
  | succ fuel ih =>
    have hkept := hpoll c s hs
    rw [advance]
    rcases hon : (r.poll c max).on s with ⟨cause | ⟨p, c'⟩, s'⟩
    · rw [hon] at hkept
      exact hkept
    · rw [hon] at hkept
      simp only
      split
      · exact hkept
      · exact ih c' hkept

end Replayer

namespace Gate

variable {r r' : Registry} {k : Credentials} {name : String} {token : String}

theorem cached_of_known (h : known r name token) : Cached r.storage.cache name token := by
  have hview : r.storage.view.userByName? name = r.storage.cacheView.userByName? name := by
    unfold Storage.view
    cases r.storage.backend <;> rfl
  rw [known, hview, Storage.cacheView] at h
  split at h
  · cases h
  · change (r.storage.cache.users.userByName? name).any (·.token = token) = true at h
    rw [Cached]
    cases hcached : r.storage.cache.users.userByName? name with
    | none =>
      rw [hcached] at h
      cases h
    | some u =>
      rw [hcached] at h
      simpa using h

def Watched (r : Registry) (stream : String) : Prop :=
  stream ∈ r.requested ∧ ∀ e, r.engine = some e → e.isWatching stream

theorem watched_watch (r : Registry) (stream : String) : Watched (r.watch stream) stream := by
  refine ⟨List.mem_append_right _ List.mem_cons_self, fun e he => ?_⟩
  obtain ⟨e', -, rfl⟩ := Option.map_eq_some_iff.1 he
  rw [e'.isWatching_watch, decide_eq_true rfl, Bool.or_true]

theorem Outcome.admitted {name? token? : Option String}
    (h : Outcome r k (.resolve name? token?) (.ok name) r') (htenancy : r.tenancy = .multi) :
    ∃ token, name? = some name ∧ token? = some token ∧ name ≠ "" ∧ token ≠ "" ∧
      (known r name token ∨ Current k name token) ∧ Watched r' name := by
  generalize hanswer : (Except.ok name : Except GateError String) = answer at h
  generalize hq : Request.resolve name? token? = q at h
  cases h with
  | single hsingle => cases htenancy.symm.trans hsingle
  | refused => cases hanswer
  | @recognized name' token hname htoken hknown =>
    cases hanswer
    cases hq
    exact ⟨token, rfl, rfl, hname, htoken, .inl hknown, watched_watch r name⟩
  | withheld => cases hanswer
  | issued hissue =>
    subst hq
    cases hissue
  | @letIn u published _ hname htoken hcurrent _ hpublish =>
    cases published with
    | error => cases hanswer
    | ok =>
      cases hanswer
      cases hq
      obtain ⟨⟨log, rfl⟩, -⟩ := publish_frame hpublish
      exact ⟨u.token, rfl, rfl, hname, htoken, .inr hcurrent, watched_watch _ u.name⟩

end Gate

open Gate (Cached Current Outcome)

structure Storage.Vouched (vouched : String → String → Prop) (n : Nat) (s : Storage) : Prop where
  cached : ∀ {name token}, Cached s.cache name token → vouched name token
  logged : ∀ {l}, s.log = some l → ∃ us, l.Holds (.ofUsers us) ∧ us.length ≤ n ∧
    ∀ u ∈ us, vouched u.name u.token

namespace Storage

variable {vouched : String → String → Prop} {n : Nat} {s : Storage}

theorem Vouched.changeCache (h : s.Vouched vouched n) {u : User} (hu : vouched u.name u.token) :
    ((changeCache (.user u)).on s).2.Vouched vouched n := by
  rw [Storage.changeCache, Action.on_of]
  split
  · exact h
  · refine ⟨fun hcached => ?_, h.logged⟩
    rcases Gate.cached_addUser hcached with ⟨rfl, rfl⟩ | hcached
    · exact hu
    · exact h.cached hcached

theorem mem_fetch_users {us : List User} {stream : String} {start max : Nat} {change : Change}
    (h : change ∈ ((MemoryLog.ofUsers us).fetch stream start max).filterMap Entry.change?) :
    ∃ u ∈ us, .user u = change := by
  rw [MemoryLog.filterMap_fetch, Change.of, MemoryLog.changes_users] at h
  exact List.mem_map.1 (List.mem_filter.1 (List.mem_of_mem_drop (List.mem_of_mem_take h))).1

theorem Vouched.fetch (h : s.Vouched vouched n) (hn : n ≤ Frame.offsets) (stream : String)
    (start max : Nat) :
    ∃ answer s', (Storage.fetch stream start max).on s = (answer, s') ∧ s'.Vouched vouched n ∧
      ∀ es, answer = .ok es → ∀ change ∈ es.filterMap Entry.change?,
        ∃ u, change = .user u ∧ vouched u.name u.token := by
  obtain ⟨_ | l, cache, backend, outages⟩ := s
  · refine ⟨.ok [], _, rfl, h, fun es hes change hmem => ?_⟩
    cases hes
    cases hmem
  · obtain ⟨us, hl, hlength, hus⟩ := h.logged rfl
    obtain ⟨l', hfetch, hl'⟩ := hl.fetch
      ((MemoryLog.length_ofUsers_le us stream).trans (hlength.trans hn)) start max
    rw [Storage.fetch, Action.on_of]
    simp only
    split
    · exact ⟨_, _, rfl, h, fun _ hes => by cases hes⟩
    · rw [hfetch]
      refine ⟨_, _, rfl, ⟨h.cached, fun hl₁ => ?_⟩, fun es hes change hmem => ?_⟩
      · cases hl₁
        exact ⟨us, hl', hlength, hus⟩
      · cases hes
        obtain ⟨u, hu, rfl⟩ := mem_fetch_users hmem
        exact ⟨u, rfl, hus u hu⟩

theorem Vouched.poll (h : s.Vouched vouched n) (hn : n ≤ Frame.offsets) (c : Cursor) (max : Nat) :
    ((toCache.poll c max).on s).2.Vouched vouched n := by
  refine Replayer.poll_keeps (P := fun change => ∃ u, change = .user u ∧ vouched u.name u.token) ?_
    (fun s hs => hs.fetch hn) c max h
  rintro _ ⟨u, rfl, hu⟩ s hs
  exact hs.changeCache hu

theorem Vouched.publishUser (h : s.Vouched vouched n) (hn : n ≤ Frame.offsets) {u : User}
    (hu : vouched u.name u.token) : ((publishUser u).on s).2.Vouched vouched (n + 1) := by
  obtain ⟨answer, log, hpublish, hlog, -⟩ := publishUser_frame u s
  rw [hpublish]
  refine ⟨h.cached, fun {l'} (hl' : log = some l') => ?_⟩
  rcases hlog with hlog | ⟨l, hl, hlog⟩
  · obtain ⟨us, hholds, hlength, hus⟩ := h.logged (hlog.symm.trans hl')
    exact ⟨us, hholds, Nat.le_succ_of_le hlength, hus⟩
  · obtain ⟨us, hholds, hlength, hus⟩ := h.logged hl
    cases hlog.symm.trans hl'
    rcases hholds.append_user (hlength.trans hn) rfl with ⟨-, hholds'⟩ | ⟨-, hholds'⟩
    · refine ⟨us ++ [u], hholds', ?_,
        List.forall_mem_append.2 ⟨hus, List.forall_mem_singleton.2 hu⟩⟩
      rw [List.length_append]
      exact Nat.succ_le_succ hlength
    · exact ⟨us, hholds', Nat.le_succ_of_le hlength, hus⟩

theorem Vouched.settleAll (h : s.Vouched vouched n) (hn : n ≤ Frame.offsets) (batch : Nat)
    (cursors : List Cursor) : (Engine.settleAll batch cursors s).2.Vouched vouched n := by
  have hpoll (max : Nat) (c : Cursor) (s : Storage) (hs : s.Vouched vouched n) :
      ((toCache.poll c max).on s).2.Vouched vouched n := hs.poll hn c max
  induction cursors generalizing s with
  | nil => exact h
  | cons c cs ih =>
    have hfirst : (toCache.toEnd batch c s).2.2.2.Vouched vouched n :=
      Replayer.advance_keeps (hpoll _) _ c h
    exact ih hfirst

theorem Vouched.mono (h : s.Vouched vouched n) {vouched' : String → String → Prop} {n' : Nat}
    (hn : n ≤ n') (hvouched : ∀ name token, vouched name token → vouched' name token) :
    s.Vouched vouched' n' := by
  refine ⟨fun hcached => hvouched _ _ (h.cached hcached), fun hl => ?_⟩
  obtain ⟨us, hholds, hlength, hus⟩ := h.logged hl
  exact ⟨us, hholds, hlength.trans hn, fun u hu => hvouched _ _ (hus u hu)⟩

end Storage

structure Registry.Vouched (vouched : String → String → Prop) (n : Nat) (r : Registry) : Prop where
  tenancy : r.tenancy = .multi
  tokens : ∃ k, r.tokens = .memory k ∧ ∀ {name token}, Current k name token → vouched name token
  storage : r.storage.Vouched vouched n

namespace Registry

variable {vouched : String → String → Prop} {n : Nat} {r r' : Registry}

theorem Vouched.mono (h : r.Vouched vouched n) {vouched' : String → String → Prop} {n' : Nat}
    (hn : n ≤ n') (hvouched : ∀ name token, vouched name token → vouched' name token) :
    r.Vouched vouched' n' := by
  obtain ⟨k, htokens, hcurrent⟩ := h.tokens
  exact ⟨h.tenancy, ⟨k, htokens, fun hc => hvouched _ _ (hcurrent hc)⟩, h.storage.mono hn hvouched⟩

theorem Vouched.publish (h : r.Vouched vouched n) (hn : n ≤ Frame.offsets) {u : User}
    {answer : Except GateError Unit} (hpublish : (Gate.publish u).on r = (answer, r'))
    (hu : vouched u.name u.token) : r'.Vouched vouched (n + 1) := by
  rw [Gate.publish, Action.on_mapError, onStorage, Action.on_within] at hpublish
  cases hpublish
  exact ⟨h.tenancy, h.tokens, h.storage.publishUser hn hu⟩

theorem Vouched.watch (h : r.Vouched vouched n) (stream : String) :
    (r.watch stream).Vouched vouched n :=
  ⟨h.tenancy, h.tokens, h.storage⟩

theorem Vouched.issue (h : r.Vouched vouched n) {k : Credentials} (htokens : r.tokens = .memory k)
    {u : User} (hu : vouched u.name u.token) :
    Vouched vouched n { r with tokens := .memory (k.insert u.name u.credential) } := by
  obtain ⟨k', hk', hcurrent⟩ := h.tokens
  cases htokens.symm.trans hk'
  refine ⟨h.tenancy, ⟨_, rfl, fun hc => ?_⟩, h.storage⟩
  rcases Gate.current_insert hc with ⟨rfl, rfl⟩ | hc
  · exact hu
  · exact hcurrent hc

theorem Vouched.remember (h : r.Vouched vouched n) {u : User} (hu : vouched u.name u.token) :
    Vouched vouched n
      { r with storage := { r.storage with cache := r.storage.cache.addUser u } } := by
  refine ⟨h.tenancy, h.tokens, fun hcached => ?_, h.storage.logged⟩
  rcases Gate.cached_addUser hcached with ⟨rfl, rfl⟩ | hcached
  · exact hu
  · exact h.storage.cached hcached

theorem Vouched.serve (h : r.Vouched vouched n) (hn : n ≤ Frame.offsets) (q : Gate.Request)
    (hissued : ∀ issue name fresh, q.issue? = some issue → (issue.on r).1 = .ok fresh →
      q.issues? = some (name, fresh) → vouched name fresh) :
    (q.serve.on r).2.Vouched vouched (n + 1) := by
  obtain ⟨k, htokens, hcurrent⟩ := h.tokens
  obtain ⟨answer, r', hserve, houtcome⟩ := Gate.exists_outcome htokens q
  rw [hserve]
  have hkept : r.Vouched vouched (n + 1) := h.mono (Nat.le_succ n) fun _ _ => id
  cases houtcome with
  | single => exact hkept
  | refused => exact hkept
  | recognized => exact hkept.watch _
  | withheld hissue hok hissues _ => exact hkept.issue htokens (hissued _ _ _ hissue hok hissues)
  | issued hissue hok hissues hpublish =>
    have hu := hissued _ _ _ hissue hok hissues
    exact (h.issue htokens hu).publish hn hpublish hu
  | @letIn u _ _ _ _ hc _ hpublish =>
    have hu := hcurrent hc
    exact ((h.remember hu).watch _).publish hn hpublish hu

end Registry

namespace Admission

inductive Event
  | request (q : Gate.Request)
  | addUser (name : String) (admin : Bool) (fresh : String)
  | refresh (name fresh : String)
  | poll (cursor : Cursor) (max : Nat)
  | settle
  /-- From now on these calls fail, and no others. -/
  | fail (calls : Outages)
  deriving DecidableEq

namespace Event

def step (r : Registry) : Event → Registry
  | request q => (q.serve.on r).2
  | addUser name admin fresh => ((Gate.addUser name admin fresh).on r).2
  | refresh name fresh => ((Gate.refresh name fresh).on r).2
  | poll cursor max => { r with storage := ((Storage.toCache.poll cursor max).on r.storage).2 }
  | settle => r.settle
  | fail calls => { r with storage := { r.storage with outages := calls } }

def issue? : Event → Option (Action Registry AuthError String)
  | request q => q.issue?
  | addUser name admin fresh => some (Gate.addUser name admin fresh)
  | refresh name fresh => some (Gate.refresh name fresh)
  | poll .. => none
  | settle => none
  | fail _ => none

def issues? : Event → Option (String × String)
  | request q => q.issues?
  | addUser name _ fresh => some (name, fresh)
  | refresh name fresh => some (name, fresh)
  | poll .. => none
  | settle => none
  | fail _ => none

end Event

def start (log : Option Log) (backend : Option Backend) (engine : Option Engine) (policy : Policy) :
    Registry where
  storage := ⟨log, ∅, backend, []⟩
  engine := engine
  requested := []
  tokens := .empty
  tenancy := .multi
  policy := policy

def after (r : Registry) (events : List Event) : Registry := events.foldl Event.step r

def Issued (r : Registry) (events : List Event) (name token : String) : Prop :=
  ∃ before event rest issue, events = before ++ event :: rest ∧ event.issues? = some (name, token) ∧
    event.issue? = some issue ∧ (issue.on (after r before)).1 = .ok token

theorem Issued.append {r : Registry} {events : List Event} {name token : String}
    (h : Issued r events name token) (more : List Event) :
    Issued r (events ++ more) name token := by
  obtain ⟨before, event, rest, issue, rfl, hissued⟩ := h
  exact ⟨before, event, rest ++ more, issue, by rw [List.append_assoc, List.cons_append], hissued⟩

theorem vouched_start {log : Option Log} (hlog : ∀ l ∈ log, l.New) (backend : Option Backend)
    (engine : Option Engine) (policy : Policy) (vouched : String → String → Prop) :
    (start log backend engine policy).Vouched vouched 0 where
  tenancy := rfl
  tokens := ⟨∅, rfl, nofun⟩
  storage := ⟨nofun, fun hl => ⟨[], (hlog _ hl).holds, Nat.le_refl 0, nofun⟩⟩

theorem vouched_step {r : Registry} {vouched : String → String → Prop} {n : Nat}
    (h : r.Vouched vouched n) (hn : n ≤ Frame.offsets) (event : Event)
    (hissued : ∀ issue name fresh, event.issue? = some issue → (issue.on r).1 = .ok fresh →
      event.issues? = some (name, fresh) → vouched name fresh) :
    (event.step r).Vouched vouched (n + 1) := by
  have hkept : r.Vouched vouched (n + 1) := h.mono (Nat.le_succ n) fun _ _ => id
  obtain ⟨k, htokens, -⟩ := h.tokens
  cases event with
  | request q => exact h.serve hn q hissued
  | addUser name admin fresh =>
    rw [Event.step]
    rcases Gate.addUser_cases htokens name admin fresh with ⟨cause, hadd⟩ | hadd
    · rw [hadd]
      exact hkept
    · have hu := hissued _ name fresh rfl (by rw [hadd]) rfl
      rw [hadd]
      exact hkept.issue htokens (u := ⟨name, fresh, admin⟩) hu
  | refresh name fresh =>
    rw [Event.step]
    rcases Gate.refresh_cases htokens name fresh with ⟨cause, hrefresh⟩ | ⟨admin, hrefresh⟩
    · rw [hrefresh]
      exact hkept
    · have hu := hissued _ name fresh rfl (by rw [hrefresh]) rfl
      rw [hrefresh]
      exact hkept.issue htokens (u := ⟨name, fresh, admin⟩) hu
  | poll cursor max =>
    exact ⟨hkept.tenancy, hkept.tokens,
      (h.storage.poll hn cursor max).mono (Nat.le_succ n) fun _ _ => id⟩
  | settle =>
    cases hengine : r.engine with
    | none =>
      rw [Event.step, Registry.settle, hengine]
      exact hkept
    | some e =>
      rw [Event.step, Registry.settle, hengine]
      exact ⟨hkept.tenancy, hkept.tokens,
        (h.storage.settleAll hn e.batch e.cursors).mono (Nat.le_succ n) fun _ _ => id⟩
  | fail calls => exact ⟨hkept.tenancy, hkept.tokens, hkept.storage.cached, hkept.storage.logged⟩

theorem vouched_after {log : Option Log} (hlog : ∀ l ∈ log, l.New) (backend : Option Backend)
    (engine : Option Engine) (policy : Policy) (events : List Event)
    (hn : events.length ≤ Frame.offsets) : (after (start log backend engine policy) events).Vouched
      (Issued (start log backend engine policy) events) events.length := by
  induction events using List.reverseRecOn with
  | nil => exact vouched_start hlog ..
  | append_singleton events event ih =>
    rw [List.length_append] at hn ⊢
    have hbefore := ih (Nat.le_of_succ_le hn)
    rw [after, List.foldl_append]
    refine vouched_step (hbefore.mono (Nat.le_refl _) fun _ _ h => h.append [event])
      (Nat.le_of_succ_le hn) event fun issue name fresh hissue hok hissues => ?_
    exact ⟨events, event, [], issue, rfl, hissues, hissue, hok⟩

/-- Whom the gate admits, and with what. -/
theorem resolve_sound {log : Option Log} (hlog : ∀ l ∈ log, l.New) (backend : Option Backend)
    (engine : Option Engine) (policy : Policy) {events : List Event}
    (hn : events.length ≤ Frame.offsets) {name? token? : Option String}
    {answer : Except GateError String} {r : Registry}
    (hresolve : (Gate.resolve name? token?).on (after (start log backend engine policy) events) =
      (answer, r)) :
    (∀ name, answer = .ok name → name? = some name ∧ name ≠ "" ∧
      (∃ token, token? = some token ∧ token ≠ "" ∧
        Issued (start log backend engine policy) events name token) ∧
      Gate.Watched r name) ∧
    (∀ e, answer = .error e → (e = .missingCredentials ∨ ∃ name, e = .unauthorized name) →
      r = after (start log backend engine policy) events) := by
  have h := vouched_after hlog backend engine policy events hn
  obtain ⟨k, htokens, hcurrent⟩ := h.tokens
  obtain ⟨answer', r', hserve, houtcome⟩ := Gate.exists_outcome htokens (.resolve name? token?)
  cases hserve.symm.trans hresolve
  refine ⟨fun name hok => ?_, fun e herror hcause => ?_⟩
  · subst hok
    obtain ⟨token, rfl, rfl, hname, htoken, hgood, hwatched⟩ := houtcome.admitted h.tenancy
    refine ⟨rfl, hname, ⟨token, rfl, htoken, ?_⟩, hwatched⟩
    exact hgood.elim (fun hknown => h.storage.cached (Gate.cached_of_known hknown)) hcurrent
  · subst herror
    refine houtcome.unchanged rfl fun cause he => ?_
    rcases hcause with rfl | ⟨name, rfl⟩
    · cases he
    · cases he

theorem resolve_sound_replayed :
    let policy : Policy := ⟨.recordFields, .backward⟩
    let events : List Event := [.request (.createUser "acme" false "T1"),
      .addUser "globex" false "T2", .poll ⟨"admin", 0⟩ 5, .refresh "acme" "T3"]
    let r := start (some (.memory ∅)) none (some (.new 10)) policy
    (∃ r', (Gate.resolve (some "acme") (some "T1")).on (after r events) = (.ok "acme", r') ∧
      Issued r events "acme" "T1" ∧ Gate.Watched r' "acme") ∧
    ∃ r', (Gate.resolve (some "acme") (some "T2")).on (after r events) =
      (.error (.unauthorized "acme"), r') ∧
      r' = after r events := by
  intro policy events r
  have hlog : ∀ l ∈ some (Log.memory ∅), l.New := by
    rintro _ ⟨⟩
    exact .memory
  have hn : events.length ≤ Frame.offsets := by decide
  obtain ⟨admitted, hadmitted⟩ :
      ∃ r', (Gate.resolve (some "acme") (some "T1")).on (after r events) =
        (.ok "acme", r') := ⟨_, by rfl⟩
  obtain ⟨rejected, hrejected⟩ :
      ∃ r', (Gate.resolve (some "acme") (some "T2")).on (after r events) =
        (.error (.unauthorized "acme"), r') := ⟨_, by rfl⟩
  have hsound := resolve_sound hlog none (some (.new 10)) policy hn hadmitted
  obtain ⟨-, -, ⟨token, htoken, -, hissued⟩, hwatched⟩ := hsound.1 "acme" rfl
  cases htoken
  have hkept :=
    (resolve_sound hlog none (some (.new 10)) policy hn hrejected).2 _ rfl (.inr ⟨"acme", rfl⟩)
  exact ⟨⟨admitted, hadmitted, hissued, hwatched⟩, rejected, hrejected, hkept⟩

end Admission

end SchemaRegistry
