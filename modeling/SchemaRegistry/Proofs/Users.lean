import Mathlib.Data.List.Induction
import Mathlib.Data.List.Nodup
import SchemaRegistry.Proofs.Gate
import SchemaRegistry.Proofs.TokenIndex

/-!
The user directory of a gate.  A user who is let in is put into it past the log, so a reader that is
behind can put an older token over a newer one for a while.  At the end of the log the directory is
what the log alone leads to, and it has the tokens that are good.
-/

namespace SchemaRegistry

def User.last? (name : String) (us : List User) : Option User := us.reverse.find? (·.name = name)

namespace User

variable {name : String} {us vs : List User} {u : User}

theorem last?_append (name : String) (us vs : List User) :
    last? name (us ++ vs) = (last? name vs).or (last? name us) := by
  rw [last?, List.reverse_append, List.find?_append]
  rfl

theorem last?_concat (name : String) (us : List User) (u : User) :
    last? name (us ++ [u]) = if name = u.name then some u else last? name us := by
  rw [last?, List.reverse_concat, List.find?_cons]
  by_cases h : name = u.name
  · simp [h]
  · rw [if_neg h, decide_eq_false (fun h' => h h'.symm)]
    rfl

theorem mem_of_last? (h : last? name us = some u) : u ∈ us ∧ u.name = name :=
  ⟨List.mem_reverse.1 (List.mem_of_find?_eq_some h), by simpa using List.find?_some h⟩

theorem last?_eq_none_iff : last? name us = none ↔ ∀ u ∈ us, u.name ≠ name := by
  simp [last?, List.find?_eq_none]

end User

namespace Directory

variable {d : Directory} {name token : String} {us : List User} {u : User}

theorem userByName?_foldl (d : Directory) (us : List User) (name : String) :
    (us.foldl add d).userByName? name = (User.last? name us).or (d.userByName? name) := by
  induction us using List.reverseRecOn with
  | nil => rfl
  | append_singleton us u ih =>
    rw [List.foldl_concat, userByName?_add, ih, User.last?_concat]
    split <;> rfl

def Owned (issued : List (String × String)) : Prop :=
  ∀ p ∈ issued, ∀ q ∈ issued, p.2 = q.2 → p.1 = q.1

theorem owned_of_nodup {issued : List (String × String)} (h : (issued.map (·.2)).Nodup) :
    Owned issued := fun _ hp _ hq hpq => congrArg Prod.fst (List.inj_on_of_nodup_map h hp hq hpq)

structure Indexed (issued : List (String × String)) (d : Directory) : Prop where
  asked : ∀ {name u}, d.byName.get? name = some u → u.name = name ∧ (name, u.token) ∈ issued
  token : ∀ token name, d.byToken.get? token = some name ↔
    ∃ u, d.byName.get? name = some u ∧ u.token = token

variable {issued : List (String × String)}

theorem indexed_empty (issued : List (String × String)) : Indexed issued ∅ where
  asked h := nomatch h
  token _ _ := ⟨nofun, nofun⟩

theorem Indexed.sound (h : Indexed issued d) : d.Sound :=
  ⟨fun hu => (h.asked hu).1, fun hget => (h.token ..).1 hget⟩

theorem Indexed.complete (h : Indexed issued d) : d.Complete := fun name u hu =>
  (h.token u.token name).2 ⟨u, hu, rfl⟩

theorem Owned.distinct (howned : Owned issued)
    (h : ∀ {name u}, d.byName.get? name = some u → u.name = name ∧ (name, u.token) ∈ issued) :
    d.Distinct :=
  distinct_of fun hu hv htoken => howned _ (h hu).2 _ (h hv).2 htoken

theorem Indexed.add (h : Indexed issued d) (howned : Owned issued)
    (hu : (u.name, u.token) ∈ issued) : Indexed issued (d.add u) := by
  have hasked {name : String} {v : User} (hv : (d.add u).byName.get? name = some v) :
      v.name = name ∧ (name, v.token) ∈ issued := by
    rw [byName_add] at hv
    split at hv
    · next hname =>
      cases hv
      exact ⟨hname.symm, hname ▸ hu⟩
    · exact h.asked hv
  have hcomplete := h.complete.add (howned.distinct h.asked) (howned.distinct hasked)
  refine ⟨hasked, fun token name => ⟨(h.sound.add u).token, ?_⟩⟩
  rintro ⟨v, hv, rfl⟩
  exact hcomplete name v hv

theorem Indexed.foldl (h : Indexed issued d) (howned : Owned issued)
    (hus : ∀ u ∈ us, (u.name, u.token) ∈ issued) : Indexed issued (us.foldl Directory.add d) := by
  induction us generalizing d with
  | nil => exact h
  | cons u us ih =>
    obtain ⟨hu, hus⟩ := List.forall_mem_cons.1 hus
    exact ih (h.add howned hu) hus

theorem Indexed.eq {d₁ d₂ : Directory} (h₁ : Indexed issued d₁) (h₂ : Indexed issued d₂)
    (h : d₁.byName = d₂.byName) : d₁ = d₂ := by
  have htoken : d₁.byToken = d₂.byToken := Table.ext_get? fun token => Option.ext fun name => by
    rw [h₁.token, h₂.token, h]
  cases d₁
  cases d₂
  simp_all

end Directory

namespace MemoryLog

theorem append_user (us : List User) (u : User) :
    (Log.memory (.ofUsers us)).append u.record.stream u.record.key u.record.value =
      (.ok us.length, .memory (.ofUsers (us ++ [u]))) := by
  rw [ofUsers_concat]
  exact congrArg (fun n => (Except.ok n, _)) (length_ofUsers us)

theorem filterMap_entries_users (us : List User) :
    ((ofUsers us).entries adminStream).filterMap Entry.change? = us.map .user := by
  rw [filterMap_entries, changes_users, on_users]
  rfl

end MemoryLog

namespace Gated

open Gate (Runs Cached Current Effect published)

/-- The published users, the directory of a reader that has taken in those before `next`, and the
tokens that are good. -/
structure Converging (issued : List (String × String)) (us : List User) (next : Nat) (d : Directory)
    (k : Credentials) : Prop where
  next_le : next ≤ us.length
  asked : ∀ u ∈ us, (u.name, u.token) ∈ issued
  current : ∀ name, k.get? name = (User.last? name us).map User.credential
  cached : ∀ name, d.userByName? name = User.last? name (us.take next) ∨
    ∃ u ∈ us.drop next, u.name = name ∧ d.userByName? name = some u

section

variable {issued : List (String × String)} {us : List User} {next : Nat} {d : Directory}
  {k : Credentials} {u : User}

theorem converging_start (issued : List (String × String)) : Converging issued [] 0 ∅ ∅ where
  next_le := Nat.le_refl 0
  asked := nofun
  current _ := rfl
  cached _ := .inl rfl

theorem Converging.concat {d' : Directory} {k' : Credentials} (h : Converging issued us next d k)
    (hu : (u.name, u.token) ∈ issued)
    (hk : ∀ name, k'.get? name = if name = u.name then some u.credential else k.get? name)
    (hd : ∀ name, d'.userByName? name = d.userByName? name ∨
      u.name = name ∧ d'.userByName? name = some u) :
    Converging issued (us ++ [u]) next d' k' where
  next_le := by
    rw [List.length_append]
    exact Nat.le_add_right_of_le h.next_le
  asked := List.forall_mem_append.2 ⟨h.asked, List.forall_mem_singleton.2 hu⟩
  current name := by
    rw [hk, User.last?_concat, h.current]
    split <;> rfl
  cached name := by
    rw [List.take_append_of_le_length h.next_le, List.drop_append_of_le_length h.next_le]
    rcases hd name with hsame | ⟨hname, hget⟩
    · rw [hsame]
      refine (h.cached name).imp_right ?_
      rintro ⟨v, hv, hname, hget⟩
      exact ⟨v, List.mem_append_left _ hv, hname, hget⟩
    · exact .inr ⟨u, by simp, hname, hget⟩

theorem Converging.issue (h : Converging issued us next d k) (hu : (u.name, u.token) ∈ issued) :
    Converging issued (us ++ [u]) next d (k.insert u.name u.credential) :=
  h.concat hu (fun name => k.get?_insert u.name name u.credential) fun _ => .inl rfl

theorem Converging.letIn (h : Converging issued us next d k)
    (hcurrent : k.get? u.name = some u.credential) :
    Converging issued (us ++ [u]) next (d.add u) k := by
  have hasked : (u.name, u.token) ∈ issued := by
    obtain ⟨v, hlast, hcredential⟩ :=
      Option.map_eq_some_iff.1 ((h.current u.name).symm.trans hcurrent)
    obtain ⟨hv, hname⟩ := User.mem_of_last? hlast
    have htoken : v.token = u.token := congrArg Credential.token hcredential
    simpa [hname, htoken] using h.asked v hv
  refine h.concat hasked (fun name => ?_) fun name => ?_
  · split
    · next hname => rw [hname, hcurrent]
    · rfl
  · rw [Directory.userByName?_add]
    split
    · next hname => exact .inr ⟨hname.symm, rfl⟩
    · exact .inl rfl

theorem Converging.poll (h : Converging issued us next d k) (max : Nat) :
    let batch := (us.drop next).take max
    Converging issued us (next + batch.length) (batch.foldl Directory.add d) k := by
  intro batch
  have hsplit : us.drop next = batch ++ us.drop (next + batch.length) := by
    rw [← List.drop_drop]
    exact (List.prefix_iff_eq_append.1 (List.take_prefix ..)).symm
  refine ⟨add_length_batch_le h.next_le max, h.asked, h.current, fun name => ?_⟩
  rw [Directory.userByName?_foldl, take_add_length_batch, User.last?_append]
  cases hlast : User.last? name batch with
  | some v => exact .inl rfl
  | none =>
    refine (h.cached name).imp_right ?_
    rintro ⟨v, hv, hname, hget⟩
    rw [hsplit] at hv
    rcases List.mem_append.1 hv with hv | hv
    · exact absurd hname (User.last?_eq_none_iff.1 hlast v hv)
    · exact ⟨v, hv, hname, hget⟩

end

structure Converges (b : Option Backend) (issued : List (String × String)) (us : List User)
    (g : Gated) (c : Cache) (k : Credentials) : Prop where
  runs : Runs g.registry (.memory (.ofUsers us)) c b k
  users : Converging issued us g.next c.users k
  indexed : Directory.Owned issued → c.users.Indexed issued

section

variable {b : Option Backend} {issued : List (String × String)} {us : List User} {g : Gated}
  {c : Cache} {k : Credentials}

theorem Converges.serve (h : g.Converges b issued us c k) {q : Gate.Request}
    (hq : ∀ p, q.issues? = some p → p ∈ issued) :
    ∃ us' c' k', us <+: us' ∧ (g.serve q).2.Converges b issued us' c' k' ∧
      ∀ name, q.creates? = some name → ∃ u ∈ us', u.name = name := by
  obtain ⟨answer, r', l', c', k', hserve, hruns, heffect⟩ := Gate.exists_effect h.runs q
  have hg : (g.serve q).2 = ⟨r', g.next⟩ := by rw [Gated.serve, hserve]
  rw [hg]
  cases heffect with
  | refused hcreates =>
    exact ⟨us, c, k, List.prefix_refl _, ⟨hruns, h.users, h.indexed⟩, by simp [hcreates]⟩
  | recognized =>
    exact ⟨us, c, k, List.prefix_refl _, ⟨hruns, h.users, h.indexed⟩, nofun⟩
  | @issued _ u _ _ hissues happend =>
    cases (MemoryLog.append_user us u).symm.trans happend
    refine ⟨us ++ [u], c, _, List.prefix_append ..,
      ⟨hruns, h.users.issue (hq _ hissues), h.indexed⟩, fun name hcreates => ⟨u, by simp, ?_⟩⟩
    cases q with
    | createUser =>
      cases hissues
      exact Option.some.inj hcreates
    | refreshToken => cases hcreates
    | resolve => cases hcreates
  | @letIn u _ _ hcurrent happend =>
    cases (MemoryLog.append_user us u).symm.trans happend
    have husers := h.users.letIn hcurrent
    exact ⟨us ++ [u], _, k, List.prefix_append .., ⟨hruns, husers, fun howned =>
      (h.indexed howned).add howned (husers.asked u (by simp))⟩, nofun⟩

theorem Converges.poll (h : g.Converges b issued us c k) (max : Nat) :
    ∃ c', (g.poll max).Converges b issued us c' k := by
  obtain ⟨l', c', hruns, rfl, husers, hnext⟩ := poll_on (· = .memory (.ofUsers us)) h.runs rfl
    (Storage.tracks_memory _ b) max
  refine ⟨c', hruns, ?_, fun howned => ?_⟩
  · rw [husers, hnext]
    exact h.users.poll max
  · rw [husers]
    refine (h.indexed howned).foldl howned fun u hu => h.users.asked u ?_
    exact List.mem_of_mem_drop (List.mem_of_mem_take hu)

theorem Converges.step (h : g.Converges b issued us c k) {s : Step}
    (hs : ∀ p, s.issues? = some p → p ∈ issued) :
    ∃ us' c' k', us <+: us' ∧ (g.step s).Converges b issued us' c' k' ∧
      ∀ name admin fresh, s = .request (.createUser name admin fresh) →
        ∃ u ∈ us', u.name = name := by
  cases s with
  | request q =>
    obtain ⟨us', c', k', hgrown, h', hcreated⟩ := h.serve hs
    refine ⟨us', c', k', hgrown, h', fun name admin fresh hq => ?_⟩
    cases hq
    exact hcreated name rfl
  | poll max =>
    obtain ⟨c', h'⟩ := h.poll max
    exact ⟨us, c', k, List.prefix_refl _, h', nofun⟩

theorem Converges.after (h : g.Converges b issued us c k) {steps : List Step}
    (hsteps : ∀ p ∈ Gated.issued steps, p ∈ issued) :
    ∃ us' c' k', us <+: us' ∧ (g.after steps).Converges b issued us' c' k' ∧
      ∀ name admin fresh, .request (.createUser name admin fresh) ∈ steps →
        ∃ u ∈ us', u.name = name := by
  induction steps generalizing g us c k with
  | nil => exact ⟨us, c, k, List.prefix_refl _, h, nofun⟩
  | cons s steps ih =>
    obtain ⟨us₁, c₁, k₁, hgrown₁, h₁, hcreated₁⟩ := h.step fun p hp =>
      hsteps p (mem_issued_cons.2 (.inl hp))
    obtain ⟨us₂, c₂, k₂, hgrown₂, h₂, hcreated₂⟩ := ih h₁ fun p hp =>
      hsteps p (mem_issued_cons.2 (.inr hp))
    refine ⟨us₂, c₂, k₂, hgrown₁.trans hgrown₂, h₂, fun name admin fresh hs => ?_⟩
    rcases List.mem_cons.1 hs with rfl | hs
    · obtain ⟨u, hu, hname⟩ := hcreated₁ name admin fresh rfl
      exact ⟨u, hgrown₂.subset hu, hname⟩
    · exact hcreated₂ name admin fresh hs

theorem converges_start (b : Option Backend) (engine : Option Engine) (policy : Policy)
    (issued : List (String × String)) :
    (start (.memory ∅) b engine policy).Converges b issued [] ∅ ∅ where
  runs := runs_start ..
  users := converging_start issued
  indexed _ := Directory.indexed_empty issued

theorem Converges.bound (h : g.Converges b issued us c k) :
    g.registry.storage.bound adminStream = us.length := by
  rw [h.runs.storage]
  exact MemoryLog.length_ofUsers us

theorem Converges.rebuilt (h : g.Converges b issued us c k) (batch : Nat) :
    (Storage.beside.replay batch adminStream).on (g.registry.storage, ∅) =
      (.ok (.of ((MemoryLog.ofUsers us).entries adminStream), ⟨adminStream, us.length⟩),
        (g.registry.storage, (us.map Change.user).foldl Cache.apply ∅)) := by
  have hlog : g.registry.storage.log = some (.memory (.ofUsers us)) := by rw [h.runs.storage]; rfl
  have hup : g.registry.storage.outages.refuse .logFetch = false := by rw [h.runs.storage]; rfl
  rw [Storage.replay_beside hlog hup, MemoryLog.length_ofUsers, Cache.takeIn,
    MemoryLog.filterMap_entries_users]

section

variable (h : g.Converges b issued us c k) (hend : us.length = g.next)
include h hend

theorem Converges.userByName?_end (name : String) :
    c.users.userByName? name = User.last? name us := by
  rcases h.users.cached name with hcached | ⟨u, hu, -⟩
  · rw [hcached, ← hend, List.take_length]
  · simp [← hend] at hu

theorem Converges.credential_end (name : String) :
    (c.users.userByName? name).map User.credential = k.get? name := by
  rw [h.userByName?_end hend, h.users.current]

theorem Converges.byName_end :
    ((us.map Change.user).foldl Cache.apply ∅).users.byName = c.users.byName := by
  refine Table.ext_get? fun name => ?_
  rw [Cache.users_foldl]
  exact (Directory.userByName?_foldl ∅ us name).trans
    (Option.or_none.trans (h.userByName?_end hend name).symm)

theorem Converges.users_end (howned : Directory.Owned issued) :
    ((us.map Change.user).foldl Cache.apply ∅).users = c.users := by
  refine Directory.Indexed.eq ?_ (h.indexed howned) (h.byName_end hend)
  rw [Cache.users_foldl]
  exact (Directory.indexed_empty issued).foldl howned h.users.asked

theorem Converges.cached_iff_current (name token : String) :
    Cached c name token ↔ Current k name token := by
  rw [Cached, Current, ← h.credential_end hend, Option.map_map]
  rfl

theorem Converges.resolve_end (name token : Option String) (tenant : String) :
    ((Gate.resolve name token).on g.registry).1 = .ok tenant ↔
      name = some tenant ∧ tenant ≠ "" ∧ ∃ t, token = some t ∧ t ≠ "" ∧ Current k tenant t := by
  constructor
  · intro hresolve
    by_cases hmissing : name.filter (· ≠ "") = none ∨ token.filter (· ≠ "") = none
    · rw [Gate.resolve_missing h.runs.tenancy hmissing] at hresolve
      cases hresolve
    · obtain ⟨name, t, rfl, rfl, hname, ht⟩ := Gate.given_of_filter hmissing
      rw [Gate.resolve_on h.runs.tenancy hname ht] at hresolve
      by_cases hcached : Cached c name t
      · rw [Gate.authenticate_cached h.runs hcached] at hresolve
        cases hresolve
        exact ⟨rfl, hname, t, rfl, ht, (h.cached_iff_current hend _ t).1 hcached⟩
      · have hcurrent := mt (h.cached_iff_current hend name t).2 hcached
        rw [Gate.authenticate_unauthorized h.runs hcached hcurrent] at hresolve
        cases hresolve
  · rintro ⟨rfl, hname, t, rfl, ht, hcurrent⟩
    rw [Gate.resolve_on h.runs.tenancy hname ht,
      Gate.authenticate_cached h.runs ((h.cached_iff_current hend tenant t).2 hcurrent)]

end

end

/-- Once the reader of the users has come to the end of the log, after whatever happened, its
directory is what any replay makes of the log, and nobody is let in but with the token that is
good. -/
theorem after_converges (b : Option Backend) (engine : Option Engine) (policy : Policy)
    (steps : List Step) :
    let g := (start (.memory ∅) b engine policy).after steps
    let users := g.registry.storage.cache.users
    g.registry.storage.bound adminStream = g.next →
    ∃ k, g.registry.tokens = .memory k ∧
      (∀ batch, ∃ progress rebuilt,
        (Storage.beside.replay batch adminStream).on (g.registry.storage, ∅) =
          (.ok (progress, ⟨adminStream, g.next⟩), (g.registry.storage, rebuilt)) ∧
        rebuilt.users.byName = users.byName ∧
        -- where no token was issued twice, the index from tokens to names is the same, too
        (((issued steps).map (·.2)).Nodup → rebuilt.users = users)) ∧
      (∀ name, (users.userByName? name).map User.credential = k.get? name) ∧
      (∀ name admin fresh, .request (.createUser name admin fresh) ∈ steps →
        (users.userByName? name).isSome) ∧
      ∀ name token tenant, ((Gate.resolve name token).on g.registry).1 = .ok tenant ↔
        name = some tenant ∧ tenant ≠ "" ∧
          ∃ t, token = some t ∧ t ≠ "" ∧ Current k tenant t := by
  intro g users hend
  obtain ⟨us, c, k, -, h, hcreated⟩ :=
    (converges_start b engine policy (issued steps)).after fun _ hp => hp
  have hlength : us.length = g.next := h.bound.symm.trans hend
  have husers : users = c.users := congrArg (·.cache.users) h.runs.storage
  rw [husers]
  refine ⟨k, h.runs.tokens, fun batch => ?_, h.credential_end hlength, ?_, h.resolve_end hlength⟩
  · refine ⟨_, _, hlength ▸ h.rebuilt batch, h.byName_end hlength, fun hnodup => ?_⟩
    exact h.users_end hlength (Directory.owned_of_nodup hnodup)
  · intro name admin fresh hs
    obtain ⟨u, hu, hname⟩ := hcreated name admin fresh hs
    rw [h.userByName?_end hlength, Option.isSome_iff_ne_none]
    exact fun hnone => User.last?_eq_none_iff.1 hnone u hu hname

theorem after_converges_overtaken :
    let steps : List Step := [.request (.createUser "acme" true "T1"),
      .request (.refreshToken "acme" "T2"), .request (.resolve (some "acme") (some "T2")), .poll 1,
      .request (.resolve (some "acme") (some "T1")), .poll 2]
    let g := (start (.memory ∅) none none ⟨.recordFields, .backward⟩).after steps
    g.registry.storage.bound adminStream = g.next ∧ ((issued steps).map (·.2)).Nodup ∧
      (∃ progress rebuilt, (Storage.beside.replay 2 adminStream).on (g.registry.storage, ∅) =
          (.ok (progress, ⟨adminStream, g.next⟩), (g.registry.storage, rebuilt)) ∧
        rebuilt.users = g.registry.storage.cache.users) ∧
      ((Gate.resolve (some "acme") (some "T2")).on g.registry).1 = .ok "acme" ∧
      ((Gate.resolve (some "acme") (some "T1")).on g.registry).1 ≠ .ok "acme" := by
  intro steps g
  have hend : g.registry.storage.bound adminStream = g.next := by decide +kernel
  have hdistinct : ((issued steps).map (·.2)).Nodup := by decide
  obtain ⟨k, -, hreplay, hcredential, -, hresolve⟩ :=
    after_converges none none ⟨.recordFields, .backward⟩ steps hend
  have hget : k.get? "acme" = some ⟨"T2", true⟩ := by
    rw [← hcredential "acme"]
    decide +kernel
  obtain ⟨progress, rebuilt, hrebuilt, -, husers⟩ := hreplay 2
  refine ⟨hend, hdistinct, ⟨progress, rebuilt, hrebuilt, husers hdistinct⟩,
    (hresolve _ _ _).2 ⟨rfl, by decide, "T2", rfl, by decide, by rw [Current, hget]; rfl⟩,
    fun hold => ?_⟩
  obtain ⟨-, -, t, ht, -, hcurrent⟩ := (hresolve _ _ _).1 hold
  cases ht
  rw [Current, hget] at hcurrent
  exact absurd hcurrent (by decide)

end Gated

end SchemaRegistry
