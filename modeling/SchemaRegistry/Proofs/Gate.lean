import SchemaRegistry.Proofs.Outcome

/-!
What the gate does where every part can be reached: a request is refused, or it recognizes a user
that the cache knows, or it issues a token, or it lets a user in.  The last two publish the user.
-/

namespace SchemaRegistry

theorem Storage.userByName?_live (l : Log) (c : Cache) (b : Option Backend) (name : String) :
    (Storage.live l c b).view.userByName? name = c.users.userByName? name := by
  cases b <;> rfl

namespace Gate

structure Runs (r : Registry) (l : Log) (c : Cache) (b : Option Backend) (k : Credentials) :
    Prop where
  storage : r.storage = .live l c b
  tokens : r.tokens = .memory k
  tenancy : r.tenancy = .multi

def published {α : Type} (a : Except LogError Nat) (s : α) : Except GateError α :=
  (a.map fun _ => s).mapError fun e => .storage (.log e)

variable {r : Registry} {l l' : Log} {c : Cache} {b : Option Backend} {k : Credentials}
  {name token fresh : String} {admin : Bool} {a : Except LogError Nat}

theorem authorize_on (h : Runs r l c b k) (name token : String) :
    (authorize name token).on r = (.ok (k.authorize name token), r) := by
  obtain ⟨_, _, _, _, _, _⟩ := r
  obtain ⟨rfl, rfl, rfl⟩ := h
  rfl

theorem isAdmin_on (h : Runs r l c b k) (name : String) :
    (isAdmin name).on r = (k.isAdmin name, r) := by
  obtain ⟨_, _, _, _, _, _⟩ := r
  obtain ⟨rfl, rfl, rfl⟩ := h
  rfl

theorem addUser_on (h : Runs r l c b k) (name : String) (admin : Bool) (fresh : String) :
    (addUser name admin fresh).on r =
      (.ok fresh, { r with tokens := .memory (k.issue name admin fresh) }) := by
  obtain ⟨_, _, _, _, _, _⟩ := r
  obtain ⟨rfl, rfl, rfl⟩ := h
  rfl

theorem publish_on (h : Runs r l c b k) {u : User}
    (happend : l.append u.record.stream u.record.key u.record.value = (a, l')) :
    (publish u).on r = (published a (), { r with storage := .live l' c b }) := by
  obtain ⟨_, _, _, _, _, _⟩ := r
  obtain ⟨rfl, rfl, rfl⟩ := h
  have hpublish := Storage.publish_live l c b u.record
  rw [happend] at hpublish
  have hstorage : (Storage.publishUser u).on (.live l c b) =
      ((a.map fun _ => ()).mapError .log, .live l' c b) := by
    rw [Storage.publishUser, Action.on_bind, ← User.record, hpublish]
    cases a <;> rfl
  rw [publish, Action.on_mapError, Registry.onStorage, Action.on_within, hstorage]
  cases a <;> rfl

def Cached (c : Cache) (name token : String) : Prop :=
  (c.users.userByName? name).map (·.token) = some token

instance (c : Cache) (name token : String) : Decidable (Cached c name token) :=
  inferInstanceAs (Decidable (_ = _))

theorem known_iff (h : Runs r l c b k) : known r name token ↔ Cached c name token := by
  rw [known, h.storage, Storage.userByName?_live, Cached]
  cases c.users.userByName? name <;> simp

theorem known_eq_false (h : Runs r l c b k) (hcached : ¬ Cached c name token) :
    known r name token = false :=
  Bool.eq_false_iff.2 fun hknown => hcached ((known_iff h).1 hknown)

theorem authenticate_cached (h : Runs r l c b k) (hcached : Cached c name token) :
    (authenticate name token).on r = (.ok name, r.watch name) :=
  authenticate_known ((known_iff h).2 hcached)

theorem authenticate_unauthorized (h : Runs r l c b k) (hcached : ¬ Cached c name token)
    (hcurrent : ¬ Current k name token) :
    (authenticate name token).on r = (.error (.unauthorized name), r) := by
  rw [authenticate_unknown (known_eq_false h hcached)]
  exact letIn_rejected (authorize_eq_false hcurrent ▸ authorize_on h name token)

/-- All that a request can do to log, cache and tokens, with what it answers. -/
inductive Effect (l : Log) (c : Cache) (k : Credentials) :
    Request → Except GateError String → Log → Cache → Credentials → Prop
  | refused {q : Request} {e : GateError} (hcreates : q.creates? = none) :
    Effect l c k q (.error e) l c k
  | recognized {name token : String} (hcached : Cached c name token) :
    Effect l c k (.resolve (some name) (some token)) (.ok name) l c k
  | issued {q : Request} {u : User} {a : Except LogError Nat} {l' : Log}
    (hissues : q.issues? = some (u.name, u.token))
    (happend : l.append adminStream u.record.key u.record.value = (a, l')) :
    Effect l c k q (published a u.token) l' c (k.insert u.name u.credential)
  | letIn {u : User} {a : Except LogError Nat} {l' : Log}
    (hcurrent : k.get? u.name = some u.credential)
    (happend : l.append adminStream u.record.key u.record.value = (a, l')) :
    Effect l c k (.resolve (some u.name) (some u.token)) (published a u.name) l' (c.addUser u) k

theorem published_map {α : Type} (a : Except LogError Nat) (s : α) :
    ((published a ()).map fun _ => s) = published a s := by
  cases a <;> rfl

theorem Outcome.effect {q : Request} {answer : Except GateError String} {r' : Registry}
    (houtcome : Outcome r k q answer r') (h : Runs r l c b k) :
    ∃ l' c' k', Runs r' l' c' b k' ∧ Effect l c k q answer l' c' k' := by
  have hissues (u : User) : Runs { r with tokens := .memory (k.insert u.name u.credential) } l c b
      (k.insert u.name u.credential) := ⟨h.storage, rfl, h.tenancy⟩
  cases houtcome with
  | single htenancy => cases htenancy.symm.trans h.tenancy
  | refused hrefused =>
    refine ⟨l, c, k, h, .refused ?_⟩
    cases q with
    | createUser name admin fresh =>
      obtain ⟨cause, hcause⟩ := hrefused _ rfl
      rw [addUser_on h] at hcause
      cases hcause
    | refreshToken => rfl
    | resolve => rfl
  | recognized _ _ hknown =>
    exact ⟨l, c, k, ⟨h.storage, h.tokens, h.tenancy⟩, .recognized ((known_iff h).1 hknown)⟩
  | @withheld _ u _ _ _ _ _ hflag =>
    rw [isAdmin_on (hissues u), Credentials.isAdmin, Table.get?_insert_self] at hflag
    cases hflag
  | @issued _ u _ _ _ _ _ hasked hpublish =>
    rw [publish_on (hissues u) rfl] at hpublish
    cases hpublish
    rw [published_map]
    exact ⟨_, c, _, ⟨rfl, rfl, h.tenancy⟩, .issued hasked rfl⟩
  | @letIn u _ _ _ _ hcurrent hadmin hpublish =>
    obtain ⟨⟨_, admin⟩, hget, rfl⟩ := Option.map_eq_some_iff.1 hcurrent
    have hflag : (adminOrNot u.name).on r = (.ok admin, r) := by
      simp only [adminOrNot, Action.on_of, isAdmin_on h, Credentials.isAdmin, hget]
    cases hadmin.symm.trans hflag
    have hrun :
        Runs ({ r with
          storage := { r.storage with cache := r.storage.cache.addUser u } }.watch u.name)
          l (c.addUser u) b k := by
      refine ⟨?_, h.tokens, h.tenancy⟩
      rw [Registry.watch, h.storage]
      rfl
    rw [publish_on hrun rfl] at hpublish
    cases hpublish
    rw [published_map]
    exact ⟨_, _, k, ⟨rfl, h.tokens, h.tenancy⟩, .letIn hget rfl⟩

theorem exists_effect (h : Runs r l c b k) (q : Request) :
    ∃ answer r' l' c' k', q.serve.on r = (answer, r') ∧ Runs r' l' c' b k' ∧
      Effect l c k q answer l' c' k' := by
  obtain ⟨answer, r', hserve, houtcome⟩ := exists_outcome h.tokens q
  obtain ⟨l', c', k', hr', heffect⟩ := houtcome.effect h
  exact ⟨answer, r', l', c', k', hserve, hr', heffect⟩

end Gate

namespace MemoryLog

abbrev ofUsers (us : List User) : MemoryLog := of (us.map User.record)

theorem changes_users (m : MemoryLog) (us : List User) :
    m.changes (us.map User.record) = us.map .user := by
  induction us generalizing m with
  | nil => rfl
  | cons u us ih => rw [List.map_cons, changes, ih, List.map_cons]; rfl

theorem on_users (us : List User) : Change.on adminStream (us.map .user) = us.map .user := by
  refine List.filter_eq_self.2 fun change hchange => ?_
  obtain ⟨u, -, rfl⟩ := List.mem_map.1 hchange
  rfl

theorem length_ofUsers (us : List User) : (ofUsers us).length adminStream = us.length := by
  rw [length_of, Change.of, changes_users, on_users, List.length_map]

theorem length_ofUsers_le (us : List User) (stream : String) :
    (ofUsers us).length stream ≤ us.length := by
  rw [length_of, Change.of, changes_users]
  exact Nat.le_trans (List.length_filter_le ..) (Nat.le_of_eq (List.length_map ..))

theorem ofUsers_concat (us : List User) (u : User) :
    ofUsers (us ++ [u]) = ((ofUsers us).append adminStream u.record.key u.record.value).2 := by
  rw [ofUsers, List.map_append, of, List.foldl_append]
  rfl

theorem filterMap_fetch_users (us : List User) (start max : Nat) :
    ((ofUsers us).fetch adminStream start max).filterMap Entry.change? =
      ((us.drop start).take max).map .user := by
  rw [filterMap_fetch, Change.of, changes_users, on_users, List.map_take, List.map_drop]

theorem length_fetch_users (us : List User) (start max : Nat) :
    ((ofUsers us).fetch adminStream start max).length = ((us.drop start).take max).length := by
  rw [length_fetch, length_ofUsers, List.length_take, List.length_drop]

end MemoryLog

theorem Cache.users_foldl (c : Cache) (us : List User) :
    ((us.map Change.user).foldl apply c).users = us.foldl Directory.add c.users := by
  induction us generalizing c with
  | nil => rfl
  | cons u us ih => exact ih (c.addUser u)

structure Gated where
  registry : Registry
  next : Nat

namespace Gated

inductive Step
  | request (q : Gate.Request)
  | poll (max : Nat)
  deriving DecidableEq

def start (l : Log) (b : Option Backend) (engine : Option Engine) (policy : Policy) : Gated where
  registry :=
    { storage := .live l ∅ b, engine, requested := [], tokens := .empty, tenancy := .multi, policy }
  next := 0

def serve (g : Gated) (q : Gate.Request) : Except GateError String × Gated :=
  let (answer, registry) := q.serve.on g.registry
  (answer, ⟨registry, g.next⟩)

def poll (g : Gated) (max : Nat) : Gated :=
  match (Storage.toCache.poll ⟨adminStream, g.next⟩ max).on g.registry.storage with
  | (.ok (_, cursor), storage) => ⟨{ g.registry with storage }, cursor.next⟩
  | (.error _, storage) => ⟨{ g.registry with storage }, g.next⟩

def step (g : Gated) : Step → Gated
  | .request q => (g.serve q).2
  | .poll max => g.poll max

def after (g : Gated) (steps : List Step) : Gated := steps.foldl step g

def Step.issues? : Step → Option (String × String)
  | request q => q.issues?
  | poll _ => none

def issued (steps : List Step) : List (String × String) := steps.filterMap Step.issues?

theorem mem_issued_cons {s : Step} {steps : List Step} {p : String × String} :
    p ∈ issued (s :: steps) ↔ s.issues? = some p ∨ p ∈ issued steps := by
  simp only [issued, List.mem_filterMap, List.mem_cons, or_and_right, exists_or, exists_eq_left]

variable {g : Gated} {l : Log} {c : Cache} {b : Option Backend} {k : Credentials}

theorem runs_start (l : Log) (b : Option Backend) (engine : Option Engine) (policy : Policy) :
    Gate.Runs (start l b engine policy).registry l ∅ b ∅ :=
  ⟨rfl, rfl, rfl⟩

theorem poll_on {us : List User} (holds : Log → Prop) (h : Gate.Runs g.registry l c b k)
    (hl : holds l)
    (htracks : Storage.toCache.Tracks (.ofUsers us) fun s c => ∃ l, s = .live l c b ∧ holds l)
    (max : Nat) :
    ∃ l' c', Gate.Runs (g.poll max).registry l' c' b k ∧ holds l' ∧
      c'.users = ((us.drop g.next).take max).foldl Directory.add c.users ∧
      (g.poll max).next = g.next + ((us.drop g.next).take max).length := by
  obtain ⟨s, hpoll, l', rfl, hl'⟩ := htracks.poll ⟨l, h.storage, hl⟩ adminStream g.next max
  rw [Cache.takeIn, MemoryLog.filterMap_fetch_users, MemoryLog.length_fetch_users] at hpoll
  refine ⟨l', _, ?_, hl', Cache.users_foldl c _, ?_⟩
  · rw [Gated.poll, hpoll]
    exact ⟨rfl, h.tokens, h.tenancy⟩
  · rw [Gated.poll, hpoll]

end Gated

end SchemaRegistry
