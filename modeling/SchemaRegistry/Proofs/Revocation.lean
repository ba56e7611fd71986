import SchemaRegistry.Proofs.Users

/-!
What becomes of a token that has been replaced.  The token store refuses it at once, but the cache
is asked first: whoever has it is let in for as long as the cached user has it.  That ends when the
record of the replacement is replayed, and does not begin again.
-/

namespace SchemaRegistry

theorem Log.Holds.append_user {l l' : Log} {us : List User} {u : User} {a : Except LogError Nat}
    (hl : l.Holds (.ofUsers us)) (hn : us.length ≤ Frame.offsets)
    (happend : l.append u.record.stream u.record.key u.record.value = (a, l')) :
    (a = .ok us.length ∧ l'.Holds (.ofUsers (us ++ [u]))) ∨
      ((∃ e, a = .error e) ∧ l'.Holds (.ofUsers us)) := by
  have hlength : (MemoryLog.ofUsers us).length u.record.stream = us.length :=
    MemoryLog.length_ofUsers us
  rcases hl.append_cases (hlength ▸ hn) u.record.key u.record.value with
    ⟨l₁, hserved, hl₁⟩ | ⟨e, l₁, hrefused, hl₁⟩
  · cases hserved.symm.trans happend
    exact .inl ⟨by rw [hlength], by rw [MemoryLog.ofUsers_concat]; exact hl₁⟩
  · cases hrefused.symm.trans happend
    exact .inr ⟨⟨e, rfl⟩, hl₁⟩

namespace Gate

section

variable {l l' : Log} {c c' : Cache} {k k' : Credentials} {q : Request}
  {answer : Except GateError String} {us : List User} {name token : String}

theorem Effect.users (h : Effect l c k q answer l' c' k') (hl : l.Holds (.ofUsers us))
    (hn : us.length ≤ Frame.offsets) :
    ∃ new, l'.Holds (.ofUsers (us ++ new)) ∧ new.length ≤ 1 ∧
      ∀ u ∈ new, q.issues? = some (u.name, u.token) ∨ Current k u.name u.token := by
  have hnone (hl' : l'.Holds (.ofUsers us)) :
      ∃ new, l'.Holds (.ofUsers (us ++ new)) ∧ new.length ≤ 1 ∧
      ∀ u ∈ new, q.issues? = some (u.name, u.token) ∨ Current k u.name u.token :=
    ⟨[], by rwa [List.append_nil], Nat.zero_le 1, nofun⟩
  cases h with
  | refused => exact hnone hl
  | recognized => exact hnone hl
  | @issued _ u _ _ hissues happend =>
    rcases hl.append_user hn happend with ⟨-, hl'⟩ | ⟨-, hl'⟩
    · exact ⟨[u], hl', Nat.le_refl 1, by simpa using .inl hissues⟩
    · exact hnone hl'
  | @letIn u _ _ hcurrent happend =>
    rcases hl.append_user hn happend with ⟨-, hl'⟩ | ⟨-, hl'⟩
    · exact ⟨[u], hl', Nat.le_refl 1, by simpa using .inr (congrArg (Option.map _) hcurrent)⟩
    · exact hnone hl'

theorem current_insert {u : User} (h : Current (k.insert u.name u.credential) name token) :
    (name = u.name ∧ token = u.token) ∨ Current k name token := by
  rw [Current, Table.get?_insert] at h
  split at h
  · next hname => exact .inl ⟨hname, (Option.some.inj h).symm⟩
  · exact .inr h

theorem cached_addUser {u : User} (h : Cached (c.addUser u) name token) :
    (name = u.name ∧ token = u.token) ∨ Cached c name token := by
  rw [Cached, show (c.addUser u).users = c.users.add u from rfl, Directory.userByName?_add] at h
  split at h
  · next hname => exact .inl ⟨hname, (Option.some.inj h).symm⟩
  · exact .inr h

theorem Effect.current (h : Effect l c k q answer l' c' k') (hcurrent : Current k' name token) :
    q.issues? = some (name, token) ∨ Current k name token := by
  cases h with
  | refused => exact .inr hcurrent
  | recognized => exact .inr hcurrent
  | issued hissues =>
    rcases current_insert hcurrent with ⟨rfl, rfl⟩ | hcurrent
    · exact .inl hissues
    · exact .inr hcurrent
  | letIn => exact .inr hcurrent

theorem Effect.cached (h : Effect l c k q answer l' c' k') (hcached : Cached c' name token) :
    Current k name token ∨ Cached c name token := by
  cases h with
  | refused => exact .inr hcached
  | recognized => exact .inr hcached
  | issued => exact .inr hcached
  | letIn hcurrent =>
    rcases cached_addUser hcached with ⟨rfl, rfl⟩ | hcached
    · exact .inl (congrArg (Option.map _) hcurrent)
    · exact .inr hcached

theorem Effect.handedOut {t : String} (h : Effect l c k q (.ok t) l' c' k')
    (hl : l.Holds (.ofUsers us)) (hn : us.length ≤ Frame.offsets)
    (hissues : q.issues? = some (name, token)) :
    ∃ u : User, u.name = name ∧ u.token = token ∧ l'.Holds (.ofUsers (us ++ [u])) ∧
      k' = k.insert u.name u.credential := by
  generalize hanswer : (Except.ok t : Except GateError String) = answer at h
  cases h with
  | refused => cases hanswer
  | recognized => cases hissues
  | letIn => cases hissues
  | @issued _ u a _ hasks happend =>
    cases hasks.symm.trans hissues
    rcases hl.append_user hn happend with ⟨-, hl'⟩ | ⟨⟨e, rfl⟩, -⟩
    · exact ⟨u, rfl, rfl, hl', rfl⟩
    · cases hanswer

end

def refusal (name token : String) : GateError :=
  if name = "" ∨ token = "" then .missingCredentials else .unauthorized name

theorem resolve_of_not_current {r : Registry} {l : Log} {c : Cache} {b : Option Backend}
    {k : Credentials} {name token : String} (h : Runs r l c b k)
    (hcurrent : ¬ Current k name token) :
    ((resolve (some name) (some token)).on r).1 =
      if (name ≠ "" ∧ token ≠ "") ∧ Cached c name token then .ok name
      else .error (refusal name token) := by
  by_cases hempty : name = "" ∨ token = ""
  · have hmissing : (some name).filter (· ≠ "") = none ∨ (some token).filter (· ≠ "") = none :=
      hempty.imp (fun hname => by rw [hname]; rfl) fun htoken => by rw [htoken]; rfl
    rw [resolve_missing h.tenancy hmissing,
      if_neg fun hcached => hempty.elim hcached.1.1 hcached.1.2, refusal, if_pos hempty]
  · obtain ⟨hname, htoken⟩ := not_or.1 hempty
    rw [resolve_on h.tenancy hname htoken]
    by_cases hcached : Cached c name token
    · rw [authenticate_cached h hcached, if_pos ⟨⟨hname, htoken⟩, hcached⟩]
    · rw [authenticate_unauthorized h hcached hcurrent, if_neg fun hc => hcached hc.2, refusal,
        if_neg hempty]

end Gate

namespace Gated

open Gate (Runs Cached Current)

/-- A token that is no longer good: another user of the name is in the log at this offset and no
later one has the token, nor has the cache once the reader is past that offset. -/
structure Revoked (name old : String) (offset : Nat) (us : List User) (next : Nat) (c : Cache)
    (k : Credentials) : Prop where
  replaced : ∃ u, us[offset]? = some u ∧ u.name = name
  newer : ∀ u ∈ us.drop offset, u.name = name → u.token ≠ old
  current : ¬ Current k name old
  cached : offset < next → ¬ Cached c name old

section

variable {name old : String} {offset next : Nat} {us new : List User} {l l' : Log} {c c' : Cache}
  {k k' : Credentials} {q : Gate.Request} {answer : Except GateError String}

theorem Revoked.publish (h : Revoked name old offset us next c k)
    (hnew : ∀ u ∈ new, u.name = name → u.token ≠ old) :
    Revoked name old offset (us ++ new) next c k := by
  obtain ⟨u, hu, hname⟩ := h.replaced
  have hoffset : offset < us.length := (List.getElem?_eq_some_iff.1 hu).1
  refine ⟨⟨u, ?_, hname⟩, ?_, h.current, h.cached⟩
  · rw [List.getElem?_append_left hoffset, hu]
  · rw [List.drop_append_of_le_length hoffset.le, List.forall_mem_append]
    exact ⟨h.newer, hnew⟩

theorem Revoked.serve (h : Revoked name old offset us next c k)
    (heffect : Gate.Effect l c k q answer l' c' k') (hq : q.issues? ≠ some (name, old))
    (hnew : ∀ u ∈ new, q.issues? = some (u.name, u.token) ∨ Current k u.name u.token) :
    Revoked name old offset (us ++ new) next c' k' := by
  have hpublished : Revoked name old offset (us ++ new) next c k :=
    h.publish fun u hu hname htoken => by
      subst hname htoken
      exact (hnew u hu).elim hq h.current
  refine ⟨hpublished.replaced, hpublished.newer, fun hcurrent => ?_, fun hpast hcached => ?_⟩
  · exact (heffect.current hcurrent).elim hq h.current
  · exact (heffect.cached hcached).elim h.current (h.cached hpast)

theorem Revoked.poll (h : Revoked name old offset us next c k) (max : Nat)
    (husers : c'.users = ((us.drop next).take max).foldl Directory.add c.users) :
    Revoked name old offset us (next + ((us.drop next).take max).length) c' k := by
  refine ⟨h.replaced, h.newer, h.current, fun hpast hcached => ?_⟩
  generalize hbatch : (us.drop next).take max = batch at husers hpast
  -- of the batch only what is at the offset or behind it matters
  have hsplit := List.take_append_drop (offset - next) batch
  have hlate : ∀ u ∈ batch.drop (offset - next), u ∈ us.drop offset := fun u hu => by
    rw [← hbatch, List.drop_take, List.drop_drop] at hu
    exact (List.drop_sublist_drop_left us (by omega)).subset (List.mem_of_mem_take hu)
  rw [Cached, husers, Directory.userByName?_foldl, ← hsplit, User.last?_append] at hcached
  cases hlast : User.last? name (batch.drop (offset - next)) with
  | some v =>
    obtain ⟨hv, hname⟩ := User.mem_of_last? hlast
    rw [hlast] at hcached
    exact h.newer v (hlate v hv) hname (Option.some.inj hcached)
  | none =>
    have hother := User.last?_eq_none_iff.1 hlast
    by_cases hnext : offset < next
    · rw [show offset - next = 0 by omega] at hcached hother
      have hnone : User.last? name batch = none := User.last?_eq_none_iff.2 hother
      rw [List.drop_zero, hnone] at hcached
      exact h.cached hnext hcached
    · obtain ⟨u, hu, hname⟩ := h.replaced
      refine hother u (List.mem_of_getElem? (i := 0) ?_) hname
      have hmax : batch.length ≤ max := hbatch ▸ List.length_take_le ..
      rw [List.getElem?_drop, ← hbatch, List.getElem?_take_of_lt (by omega),
        List.getElem?_drop, ← hu]
      congr 1
      omega

end

structure Follows (b : Option Backend) (us : List User) (g : Gated) (c : Cache) (k : Credentials) :
    Prop where
  runs : ∃ l, Runs g.registry l c b k ∧ l.Holds (.ofUsers us)
  next_le : g.next ≤ us.length

section

variable {b : Option Backend} {us : List User} {g : Gated} {c : Cache} {k : Credentials}

theorem follows_start {l : Log} (hl : l.New) (b : Option Backend) (engine : Option Engine)
    (policy : Policy) : (start l b engine policy).Follows b [] ∅ ∅ where
  runs := ⟨l, runs_start .., hl.holds⟩
  next_le := Nat.zero_le _

theorem Follows.bound (h : g.Follows b us c k) (hn : us.length ≤ Frame.offsets) :
    g.registry.storage.bound adminStream = us.length := by
  obtain ⟨l, hruns, hl⟩ := h.runs
  have hlength := MemoryLog.length_ofUsers us
  rw [hruns.storage]
  exact (hl.bound (hlength ▸ hn)).trans hlength

theorem Follows.step (h : g.Follows b us c k) (hn : us.length ≤ Frame.offsets) (s : Step) :
    ∃ us' c' k', (g.step s).Follows b us' c' k' ∧ us'.length ≤ us.length + 1 ∧
      ∀ name old offset, s.issues? ≠ some (name, old) → Revoked name old offset us g.next c k →
        Revoked name old offset us' (g.step s).next c' k' := by
  obtain ⟨l, hruns, hl⟩ := h.runs
  cases s with
  | request q =>
    obtain ⟨answer, r', l', c', k', hserve, hruns', heffect⟩ := Gate.exists_effect hruns q
    obtain ⟨new, hl', hfew, hnew⟩ := heffect.users hl hn
    have hg : g.step (.request q) = ⟨r', g.next⟩ := by rw [Gated.step, serve, hserve]
    rw [hg]
    refine ⟨us ++ new, c', k', ⟨⟨l', hruns', hl'⟩, ?_⟩, ?_, fun name old offset hq hrevoked =>
      hrevoked.serve heffect hq hnew⟩
    · rw [List.length_append]
      exact Nat.le_add_right_of_le h.next_le
    · rw [List.length_append]
      exact Nat.add_le_add_left hfew _
  | poll max =>
    have hlengths (stream : String) : (MemoryLog.ofUsers us).length stream ≤ Frame.offsets :=
      (MemoryLog.length_ofUsers_le us stream).trans hn
    obtain ⟨l', c', hruns', hl', husers, hnext⟩ :=
      poll_on (·.Holds (.ofUsers us)) hruns hl (Storage.tracks_live b hlengths) max
    refine ⟨us, c', k, ⟨⟨l', hruns', hl'⟩, ?_⟩, Nat.le_succ _,
      fun name old offset _ hrevoked => ?_⟩
    · rw [Gated.step, hnext]
      exact add_length_batch_le h.next_le max
    · rw [Gated.step, hnext]
      exact hrevoked.poll max husers

theorem Follows.after (h : g.Follows b us c k) (steps : List Step)
    (hn : us.length + steps.length ≤ Frame.offsets) :
    ∃ us' c' k', (g.after steps).Follows b us' c' k' ∧ us'.length ≤ us.length + steps.length ∧
      ∀ name old offset, (name, old) ∉ issued steps → Revoked name old offset us g.next c k →
        Revoked name old offset us' (g.after steps).next c' k' := by
  induction steps generalizing g us c k with
  | nil => exact ⟨us, c, k, h, Nat.le_refl _, fun _ _ _ _ hrevoked => hrevoked⟩
  | cons s steps ih =>
    rw [List.length_cons] at hn
    obtain ⟨us₁, c₁, k₁, h₁, hlength₁, hkept₁⟩ := h.step (by omega) s
    obtain ⟨us₂, c₂, k₂, h₂, hlength₂, hkept₂⟩ := ih h₁ (by omega)
    refine ⟨us₂, c₂, k₂, h₂, ?_, fun name old offset hissued hrevoked => ?_⟩
    · rw [List.length_cons]
      omega
    obtain ⟨hfirst, hrest⟩ := not_or.1 (mt mem_issued_cons.2 hissued)
    exact hkept₂ name old offset hrest (hkept₁ name old offset hfirst hrevoked)

theorem Follows.handedOut (h : g.Follows b us c k) (hn : us.length ≤ Frame.offsets)
    {q : Gate.Request} {name fresh old t : String} {g' : Gated} (hserve : g.serve q = (.ok t, g'))
    (hissues : q.issues? = some (name, fresh)) (hold : fresh ≠ old) :
    ∃ us' c' k', g'.Follows b us' c' k' ∧ us'.length ≤ us.length + 1 ∧
      Revoked name old us.length us' g'.next c' k' := by
  obtain ⟨l, hruns, hl⟩ := h.runs
  obtain ⟨answer, r', l', c', k', hanswer, hruns', heffect⟩ := Gate.exists_effect hruns q
  rw [serve, hanswer] at hserve
  cases hserve
  obtain ⟨u, rfl, rfl, hl', rfl⟩ := heffect.handedOut hl hn hissues
  refine ⟨us ++ [u], c', _, ⟨⟨l', hruns', hl'⟩, ?_⟩, by simp, ⟨u, by simp, rfl⟩, ?_, ?_,
    fun hpast => ?_⟩
  · rw [List.length_append]
    exact Nat.le_add_right_of_le h.next_le
  · simpa using hold
  · rw [Current, Table.get?_insert_self]
    exact fun hcurrent => hold (Option.some.inj hcurrent)
  · exact absurd hpast (Nat.not_lt.2 h.next_le)

end

/-- After a token has been replaced, whatever is done with log and cache, the token is refused
unless the cache has it for its user; and the cache does not have it once the replacement is
replayed. -/
theorem after_revoked {l : Log} (hl : l.New) (b : Option Backend) (engine : Option Engine)
    (policy : Policy) {before : List Step} {q : Gate.Request} {name fresh t : String} {g : Gated}
    (hserve : ((start l b engine policy).after before).serve q = (.ok t, g))
    (hissues : q.issues? = some (name, fresh)) {old : String} (hold : (name, old) ∈ issued before)
    (after : List Step) (hdistinct : ((issued (before ++ .request q :: after)).map (·.2)).Nodup)
    (hn : (before ++ .request q :: after).length ≤ Frame.offsets) :
    let offset := ((start l b engine policy).after before).registry.storage.bound adminStream
    let last := g.after after
    let answer := ((Gate.resolve (some name) (some old)).on last.registry).1
    (answer = if (name ≠ "" ∧ old ≠ "") ∧ Cached last.registry.storage.cache name old then .ok name
      else .error (Gate.refusal name old)) ∧
    (offset < last.next → answer = .error (Gate.refusal name old)) := by
  intro offset last answer
  have hissued : issued (before ++ .request q :: after) =
      issued before ++ (name, fresh) :: issued after := by
    rw [issued, List.filterMap_append, List.filterMap_cons]
    simp only [Step.issues?, hissues]
    rfl
  rw [hissued, List.map_append, List.map_cons, List.nodup_append] at hdistinct
  obtain ⟨-, -, hdistinct⟩ := hdistinct
  have holds : old ∈ (issued before).map (·.2) := List.mem_map_of_mem hold
  have hfresh : fresh ≠ old := (hdistinct old holds fresh List.mem_cons_self).symm
  have hlater : (name, old) ∉ issued after := fun hmem =>
    hdistinct old holds old (List.mem_cons_of_mem _ (List.mem_map_of_mem hmem)) rfl
  rw [List.length_append, List.length_cons] at hn
  have hbefore : ([] : List User).length + before.length ≤ Frame.offsets := by
    rw [List.length_nil]
    omega
  obtain ⟨us₁, c₁, k₁, h₁, hlength₁, -⟩ :=
    (follows_start hl b engine policy).after before hbefore
  rw [List.length_nil] at hlength₁
  obtain ⟨us₂, c₂, k₂, h₂, hlength₂, hrevoked₂⟩ :=
    h₁.handedOut (by omega) hserve hissues hfresh
  obtain ⟨us₃, c₃, k₃, h₃, -, hkept⟩ := h₂.after after (by omega)
  have hrevoked := hkept name old us₁.length hlater hrevoked₂
  obtain ⟨l', hruns, -⟩ := h₃.runs
  have hcache : last.registry.storage.cache = c₃ := by rw [hruns.storage]; rfl
  have hanswer : answer = if (name ≠ "" ∧ old ≠ "") ∧ Cached c₃ name old then .ok name
      else .error (Gate.refusal name old) := Gate.resolve_of_not_current hruns hrevoked.current
  rw [hcache]
  refine ⟨hanswer, fun hpast => ?_⟩
  have hoffset : offset = us₁.length := h₁.bound (by omega)
  rw [hanswer, if_neg fun hcached => hrevoked.cached (hoffset ▸ hpast) hcached.2]

theorem after_revoked_replayed :
    let policy : Policy := ⟨.recordFields, .backward⟩
    let before : List Step := [.request (.createUser "acme" false "T1"), .poll 1]
    let after : List Step := [.request (.resolve (some "acme") (some "T2")), .poll 1]
    ∃ g, ((start (.memory ∅) none none policy).after before).serve (.refreshToken "acme" "T2") =
        (.ok "T2", g) ∧ ("acme", "T1") ∈ issued before ∧
      ((Gate.resolve (some "acme") (some "T1")).on (g.after after).registry).1 =
        .error (.unauthorized "acme") := by
  intro policy before after
  have hissued : ("acme", "T1") ∈ issued before := by decide
  refine ⟨_, rfl, hissued, ?_⟩
  have h :=
    after_revoked (q := .refreshToken "acme" "T2") .memory none none policy rfl rfl hissued after
      (by decide) (by decide)
  exact h.2 (by decide +kernel)

/-- A token that has been replaced still lets its user in while the cache has it. -/
theorem serve_stale :
    let before : List Step := [.request (.createUser "acme" false "T1"), .poll 1]
    let q : Gate.Request := .refreshToken "acme" "T2"
    ∃ g, ((start (.memory ∅) none none ⟨.recordFields, .backward⟩).after before).serve q =
      (.ok "T2", g) ∧
      ("acme", "T1") ∈ issued before ∧ ((issued (before ++ [.request q])).map (·.2)).Nodup ∧
      ((Gate.resolve (some "acme") (some "T1")).on g.registry).1 = .ok "acme" := by
  intro before q
  exact ⟨_, rfl, by decide, by decide, by decide +kernel⟩

end Gated

end SchemaRegistry
