import SchemaRegistry.Proofs.Durable
import SchemaRegistry.Proofs.Engine
import SchemaRegistry.Registry.Gate

/-!
What a request to the gate leaves behind, whichever calls fail.  There is nothing that takes a step
back: a token that was issued stays issued when the user cannot be published after it.
-/

namespace SchemaRegistry

def User.record (u : User) : Record := .createUser u.name u.token u.admin

def User.credential (u : User) : Credential := ⟨u.token, u.admin⟩

theorem Storage.appendEntry_frame (stream key : String) (value : Bytes) (s : Storage) :
    ∃ answer log, (appendEntry stream key value).on s = (answer, { s with log }) ∧
      (log = s.log ∨ ∃ l, s.log = some l ∧ log = some (l.append stream key value).2) := by
  obtain ⟨_ | l, cache, backend, outages⟩ := s
  · exact ⟨.ok none, none, rfl, .inl rfl⟩
  · rw [appendEntry, Action.on_of]
    simp only
    split
    · exact ⟨_, some l, rfl, .inl rfl⟩
    · exact ⟨_, _, rfl, .inr ⟨l, rfl, rfl⟩⟩

theorem Storage.publishUser_frame (u : User) (s : Storage) :
    ∃ answer log, (publishUser u).on s = (answer, { s with log }) ∧
      (log = s.log ∨ ∃ l, s.log = some l ∧
        log = some (l.append u.record.stream u.record.key u.record.value).2) ∧
      ∀ e, answer = .error e → ∃ cause, e = .log cause := by
  obtain ⟨answer, log, happend, hlog⟩ :=
    appendEntry_frame u.record.stream u.record.key u.record.value s
  rw [publishUser, Action.on_bind, ← User.record, publish, Action.on_mapError, happend]
  cases answer with
  | ok => exact ⟨.ok (), log, rfl, hlog, fun _ he => by cases he⟩
  | error cause => exact ⟨_, log, rfl, hlog, fun _ he => ⟨cause, (Except.error.inj he).symm⟩⟩

namespace Gate

inductive Request
  | createUser (name : String) (admin : Bool) (fresh : String)
  | refreshToken (name fresh : String)
  | resolve (name token : Option String)
  deriving DecidableEq

namespace Request

def serve : Request → Action Registry GateError String
  | createUser name admin fresh => Gate.createUser name admin fresh
  | refreshToken name fresh => Gate.refreshToken name fresh
  | resolve name token => Gate.resolve name token

def issues? : Request → Option (String × String)
  | createUser name _ fresh => some (name, fresh)
  | refreshToken name fresh => some (name, fresh)
  | resolve .. => none

def creates? : Request → Option String
  | createUser name .. => some name
  | refreshToken .. => none
  | resolve .. => none

end Request

def Current (k : Credentials) (name token : String) : Prop :=
  (k.get? name).map (·.token) = some token

instance (k : Credentials) (name token : String) : Decidable (Current k name token) :=
  inferInstanceAs (Decidable (_ = _))

variable {r r' : Registry} {k : Credentials} {name token : String}

theorem authorize_iff : Credentials.authorize k name token ↔ Current k name token := by
  rw [Credentials.authorize, Current]
  cases k.get? name <;> simp

theorem authorize_eq_false (h : ¬ Current k name token) : k.authorize name token = false :=
  Bool.eq_false_iff.2 fun hauthorized => h (authorize_iff.1 hauthorized)

theorem onTokens_cases {α : Type} (call : Call) (x : Action TokenStore AuthError α) (r : Registry) :
    (∃ cause, (Registry.onTokens call x).on r = (.error cause, r)) ∨
    (Registry.onTokens call x).on r =
      ((x.on r.tokens).1, { r with tokens := (x.on r.tokens).2 }) := by
  rw [Registry.onTokens, Action.on_of]
  split
  · exact .inl ⟨_, rfl⟩
  · exact .inr rfl

theorem authorize_cases (name token : String) (r : Registry) :
    (∃ cause, (authorize name token).on r = (.error cause, r)) ∨
    (authorize name token).on r = (r.tokens.authorize name token, r) :=
  onTokens_cases .tokensAuthorize (.ask (·.authorize name token)) r

theorem isAdmin_cases (name : String) (r : Registry) :
    (∃ cause, (isAdmin name).on r = (.error cause, r)) ∨
    (isAdmin name).on r = (r.tokens.isAdmin name, r) :=
  onTokens_cases .tokensIsAdmin (.ask (·.isAdmin name)) r

theorem adminOrNot_cases (name : String) (r : Registry) :
    ∃ admin, (adminOrNot name).on r = (.ok admin, r) := by
  rw [adminOrNot, Action.on_of]
  rcases isAdmin_cases name r with ⟨cause, h⟩ | h
  · exact ⟨false, by rw [h]⟩
  · rw [h]
    cases r.tokens.isAdmin name with
    | ok admin => exact ⟨admin, rfl⟩
    | error => exact ⟨false, rfl⟩

theorem remember_cases (u : User) (r : Registry) :
    (∃ cause, (remember u).on r = (.error (.storage (.store cause)), r)) ∨
    (remember u).on r =
      (.ok (), { r with storage := { r.storage with cache := r.storage.cache.addUser u } }) := by
  rw [remember, Action.on_mapError, Registry.onStorage, Action.on_within, Storage.changeCache,
    Action.on_of]
  split
  · exact .inl ⟨_, rfl⟩
  · exact .inr rfl

theorem publish_frame {u : User} {answer : Except GateError Unit}
    (h : (publish u).on r = (answer, r')) :
    (∃ log, r' = { r with storage := { r.storage with log } }) ∧
      ∀ e, answer = .error e → ∃ cause, e = .storage (.log cause) := by
  obtain ⟨published, log, hpublish, -, hcause⟩ := Storage.publishUser_frame u r.storage
  rw [publish, Action.on_mapError, Registry.onStorage, Action.on_within, hpublish] at h
  cases h
  refine ⟨⟨log, rfl⟩, fun e he => ?_⟩
  cases published with
  | ok => cases he
  | error e' =>
    cases he
    obtain ⟨cause, rfl⟩ := hcause e' rfl
    exact ⟨cause, rfl⟩

section

variable {name? token? : Option String}

theorem resolve_missing (htenancy : r.tenancy = .multi)
    (hmissing : name?.filter (· ≠ "") = none ∨ token?.filter (· ≠ "") = none) :
    (resolve name? token?).on r = (.error .missingCredentials, r) := by
  simp only [resolve, Action.on_bind, Action.on_ask, htenancy]
  rcases hmissing with hname | htoken
  · rw [hname]
    rfl
  · rw [htoken]
    cases name?.filter (· ≠ "") <;> rfl

theorem resolve_on (htenancy : r.tenancy = .multi) (hname : name ≠ "") (htoken : token ≠ "") :
    (resolve (some name) (some token)).on r = (authenticate name token).on r := by
  simp only [resolve, Action.on_bind, Action.on_ask, htenancy, Option.filter_some, ne_eq, hname,
    htoken, not_false_eq_true, decide_true, ↓reduceIte]

theorem given_of_filter (h : ¬ (name?.filter (· ≠ "") = none ∨ token?.filter (· ≠ "") = none)) :
    ∃ n t, name? = some n ∧ token? = some t ∧ n ≠ "" ∧ t ≠ "" := by
  obtain ⟨hname, htoken⟩ := not_or.1 h
  obtain ⟨n, hn⟩ := Option.ne_none_iff_exists'.1 hname
  obtain ⟨t, ht⟩ := Option.ne_none_iff_exists'.1 htoken
  rw [Option.filter_eq_some_iff] at hn ht
  exact ⟨n, t, hn.1, ht.1, by simpa using hn.2, by simpa using ht.2⟩

end

theorem authenticate_known (hknown : known r name token) :
    (authenticate name token).on r = (.ok name, r.watch name) := by
  simp only [authenticate, Action.on_bind, Action.on_ask, hknown, ↓reduceIte]
  rfl

theorem authenticate_unknown (hknown : known r name token = false) :
    (authenticate name token).on r = (letIn name token).on r := by
  simp only [authenticate, Action.on_bind, Action.on_ask, hknown, Bool.false_eq_true, ↓reduceIte]

theorem letIn_rejected (hauthorize : (authorize name token).on r = (.ok false, r)) :
    (letIn name token).on r = (.error (.unauthorized name), r) := by
  rw [letIn, Action.on_bind, Action.on_mapError, hauthorize]
  rfl

def Request.issue? : Request → Option (Action Registry AuthError String)
  | createUser name admin fresh => some (addUser name admin fresh)
  | refreshToken name fresh => some (refresh name fresh)
  | resolve .. => none

def Request.resolves? : Request → Option String
  | createUser .. => none
  | refreshToken .. => none
  | resolve name _ => name

/-- All that a request can do to a registry with tokens in memory, with what it answers. -/
inductive Outcome (r : Registry) (k : Credentials) :
    Request → Except GateError String → Registry → Prop
  | single {name token : Option String} {tenant : String} (htenancy : r.tenancy = .single tenant) :
    Outcome r k (.resolve name token) (.ok tenant) r
  | refused {q : Request} {e : GateError}
    (hissue : ∀ issue, q.issue? = some issue → ∃ cause, (issue.on r).1 = .error cause) :
    Outcome r k q (.error e) r
  | recognized {name token : String} (hname : name ≠ "") (htoken : token ≠ "")
    (hknown : known r name token) :
    Outcome r k (.resolve (some name) (some token)) (.ok name) (r.watch name)
  | withheld {q : Request} {u : User} {cause : AuthError} {issue : Action Registry AuthError String}
    (hissue : q.issue? = some issue) (hissued : (issue.on r).1 = .ok u.token)
    (hissues : q.issues? = some (u.name, u.token))
    (hflag : (isAdmin u.name).on { r with tokens := .memory (k.insert u.name u.credential) } =
      (.error cause, { r with tokens := .memory (k.insert u.name u.credential) })) :
    Outcome r k q (.error (.auth cause)) { r with tokens := .memory (k.insert u.name u.credential) }
  | issued {q : Request} {u : User} {answer : Except GateError Unit} {r' : Registry}
    {issue : Action Registry AuthError String} (hissue : q.issue? = some issue)
    (hissued : (issue.on r).1 = .ok u.token) (hissues : q.issues? = some (u.name, u.token))
    (hpublish : (publish u).on { r with tokens := .memory (k.insert u.name u.credential) } =
      (answer, r')) :
    Outcome r k q (answer.map fun _ => u.token) r'
  | letIn {u : User} {answer : Except GateError Unit} {r' : Registry} (hname : u.name ≠ "")
    (htoken : u.token ≠ "") (hcurrent : Current k u.name u.token)
    (hadmin : (adminOrNot u.name).on r = (.ok u.admin, r))
    (hpublish : (publish u).on ({ r with
        storage := { r.storage with cache := r.storage.cache.addUser u } }.watch u.name) =
      (answer, r')) :
    Outcome r k (.resolve (some u.name) (some u.token)) (answer.map fun _ => u.name) r'

theorem Outcome.rejected {q : Request} (h : q.issue? = none) {e : GateError} :
    Outcome r k q (.error e) r :=
  .refused fun issue hissue => by cases h.symm.trans hissue

section

variable (htokens : r.tokens = .memory k)
include htokens

theorem addUser_cases (name : String) (admin : Bool) (fresh : String) :
    (∃ cause, (addUser name admin fresh).on r = (.error cause, r)) ∨
    (addUser name admin fresh).on r =
      (.ok fresh, { r with tokens := .memory (k.insert name ⟨fresh, admin⟩) }) := by
  refine (onTokens_cases .tokensAddUser (TokenStore.addUser name admin fresh) r).imp_right
    fun h => ?_
  rw [htokens] at h
  exact h

theorem refresh_cases (name fresh : String) :
    (∃ cause, (refresh name fresh).on r = (.error cause, r)) ∨
    ∃ admin, (refresh name fresh).on r =
      (.ok fresh, { r with tokens := .memory (k.insert name ⟨fresh, admin⟩) }) := by
  refine (onTokens_cases .tokensRefreshToken (TokenStore.refresh name fresh) r).elim .inl
    fun h => ?_
  have hstore : (TokenStore.refresh name fresh).on (.memory k) =
      (((Credentials.refresh name fresh).on k).1,
        .memory ((Credentials.refresh name fresh).on k).2) :=
    rfl
  change (refresh name fresh).on r = _ at h
  rw [htokens, hstore, Credentials.refresh, Action.on_of] at h
  cases hold : k.get? name with
  | none =>
    rw [hold, ← htokens] at h
    exact .inl ⟨_, h⟩
  | some old =>
    rw [hold] at h
    exact .inr ⟨old.admin, h⟩

theorem createUser_outcome (name : String) (admin : Bool) (fresh : String) :
    ∃ answer r', (createUser name admin fresh).on r = (answer, r') ∧
      Outcome r k (.createUser name admin fresh) answer r' := by
  rcases addUser_cases htokens name admin fresh with ⟨cause, hadd⟩ | hadd
  · refine ⟨.error (.auth cause), r, ?_, .refused ?_⟩
    · simp only [createUser, Action.on_bind, Action.on_mapError, hadd, Except.mapError]
    · rintro _ ⟨⟩
      exact ⟨cause, by rw [hadd]⟩
  · rcases hpublish : (publish ⟨name, fresh, admin⟩).on
      { r with tokens := .memory (k.insert name ⟨fresh, admin⟩) } with ⟨answer, r'⟩
    refine ⟨_, _, ?_, .issued rfl (by rw [hadd]) rfl hpublish⟩
    simp only [createUser, Action.on_bind, Action.on_mapError, hadd, Except.mapError, hpublish]
    cases answer <;> rfl

theorem refreshToken_outcome (name fresh : String) :
    ∃ answer r', (refreshToken name fresh).on r = (answer, r') ∧
      Outcome r k (.refreshToken name fresh) answer r' := by
  rcases refresh_cases htokens name fresh with ⟨cause, hrefresh⟩ | ⟨admin, hrefresh⟩
  · refine ⟨.error (.auth cause), r, ?_, .refused ?_⟩
    · simp only [refreshToken, Action.on_bind, Action.on_mapError, hrefresh, Except.mapError]
    · rintro _ ⟨⟩
      exact ⟨cause, by rw [hrefresh]⟩
  · let issued : Registry := { r with tokens := .memory (k.insert name ⟨fresh, admin⟩) }
    have hadmin : issued.tokens.isAdmin name = .ok admin := by
      rw [TokenStore.isAdmin, Credentials.isAdmin, Table.get?_insert_self]
    rcases isAdmin_cases name issued with ⟨cause, hflag⟩ | hflag
    · refine ⟨.error (.auth cause), issued, ?_,
        .withheld (u := ⟨name, fresh, admin⟩) rfl (by rw [hrefresh]) rfl hflag⟩
      simp only [refreshToken, Action.on_bind, Action.on_mapError, hrefresh, Except.mapError]
      rw [hflag]
    · rcases hpublish : (publish ⟨name, fresh, admin⟩).on issued with ⟨answer, r'⟩
      refine ⟨_, _, ?_, .issued rfl (by rw [hrefresh]) rfl hpublish⟩
      simp only [refreshToken, Action.on_bind, Action.on_mapError, hrefresh, Except.mapError]
      rw [hflag, hadmin]
      simp only [hpublish]
      cases answer <;> rfl

theorem letIn_outcome {name token : String} (hname : name ≠ "") (htoken : token ≠ "") :
    ∃ answer r', (letIn name token).on r = (answer, r') ∧
      Outcome r k (.resolve (some name) (some token)) answer r' := by
  rcases authorize_cases name token r with ⟨cause, hauthorize⟩ | hauthorize
  · refine ⟨.error (.auth cause), r, ?_, .rejected rfl⟩
    rw [letIn, Action.on_bind, Action.on_mapError, hauthorize]
    rfl
  rw [htokens, TokenStore.authorize] at hauthorize
  by_cases hcurrent : Current k name token
  · rw [authorize_iff.2 hcurrent] at hauthorize
    obtain ⟨admin, hadmin⟩ := adminOrNot_cases name r
    simp only [letIn, Action.on_bind, Action.on_mapError, hauthorize, Except.mapError, ↓reduceIte,
      hadmin]
    rcases remember_cases ⟨name, token, admin⟩ r with ⟨cause, hremember⟩ | hremember
    · exact ⟨.error (.storage (.store cause)), r, by rw [hremember], .rejected rfl⟩
    · rcases hpublish : (publish ⟨name, token, admin⟩).on ({ r with
        storage :=
          { r.storage with cache := r.storage.cache.addUser ⟨name, token, admin⟩ } }.watch name)
        with ⟨answer, r'⟩
      refine ⟨_, _, ?_, .letIn (u := ⟨name, token, admin⟩) hname htoken hcurrent hadmin hpublish⟩
      simp only [hremember, Action.on_change, hpublish]
      cases answer <;> rfl
  · rw [authorize_eq_false hcurrent] at hauthorize
    exact ⟨.error (.unauthorized name), r, letIn_rejected hauthorize, .rejected rfl⟩

theorem authenticate_outcome {name token : String} (hname : name ≠ "") (htoken : token ≠ "") :
    ∃ answer r', (authenticate name token).on r = (answer, r') ∧
      Outcome r k (.resolve (some name) (some token)) answer r' := by
  cases hknown : known r name token with
  | true =>
    exact ⟨.ok name, r.watch name, authenticate_known hknown, .recognized hname htoken hknown⟩
  | false =>
    rw [authenticate_unknown hknown]
    exact letIn_outcome htokens hname htoken

theorem exists_outcome (q : Request) :
    ∃ answer r', q.serve.on r = (answer, r') ∧ Outcome r k q answer r' := by
  cases q with
  | createUser name admin fresh => exact createUser_outcome htokens name admin fresh
  | refreshToken name fresh => exact refreshToken_outcome htokens name fresh
  | resolve name? token? =>
    rw [Request.serve]
    cases htenancy : r.tenancy with
    | single tenant =>
      refine ⟨.ok tenant, r, ?_, .single htenancy⟩
      rw [resolve, Action.on_bind, Action.on_ask, htenancy]
      rfl
    | multi =>
      by_cases hmissing : name?.filter (· ≠ "") = none ∨ token?.filter (· ≠ "") = none
      · exact ⟨.error .missingCredentials, r, resolve_missing htenancy hmissing, .rejected rfl⟩
      · obtain ⟨name, token, rfl, rfl, hname, htoken⟩ := given_of_filter hmissing
        rw [resolve_on htenancy hname htoken]
        exact authenticate_outcome htokens hname htoken

end

section

variable {q : Request} {answer : Except GateError String} {e : GateError}

theorem Outcome.tokens (h : Outcome r k q answer r') :
    r'.tokens = r.tokens ∨ ∃ u : User, q.issues? = some (u.name, u.token) ∧
      r'.tokens = .memory (k.insert u.name u.credential) := by
  cases h with
  | single => exact .inl rfl
  | refused => exact .inl rfl
  | recognized => exact .inl rfl
  | withheld _ _ hissues _ => exact .inr ⟨_, hissues, rfl⟩
  | issued _ _ hissues hpublish =>
    obtain ⟨⟨log, rfl⟩, -⟩ := publish_frame hpublish
    exact .inr ⟨_, hissues, rfl⟩
  | letIn _ _ _ _ hpublish =>
    obtain ⟨⟨log, rfl⟩, -⟩ := publish_frame hpublish
    exact .inl rfl

/-- A request that is to let a user in fails with no effect, unless it is the log that fails. -/
theorem Outcome.unchanged (h : Outcome r k q (.error e) r') (hissue : q.issue? = none)
    (hlog : ∀ cause, e ≠ .storage (.log cause)) : r' = r := by
  generalize hanswer : (Except.error e : Except GateError String) = answer at h
  cases h with
  | single => rfl
  | refused => rfl
  | recognized => cases hanswer
  | withheld hasks => cases hissue.symm.trans hasks
  | issued hasks => cases hissue.symm.trans hasks
  | @letIn _ answer _ _ _ _ _ hpublish =>
    cases answer with
    | ok => cases hanswer
    | error e' =>
      cases hanswer
      obtain ⟨cause, rfl⟩ := (publish_frame hpublish).2 e rfl
      exact absurd rfl (hlog cause)

theorem Outcome.authorize (h : Outcome r k q answer r') (htokens : r.tokens = .memory k)
    {name : String} (hname : q.issues?.map (·.1) ≠ some name) (token : String) :
    r'.tokens.authorize name token = r.tokens.authorize name token := by
  rcases h.tokens with htokens' | ⟨u, hissues, htokens'⟩
  · rw [htokens']
  · have hother : name ≠ u.name := fun h => hname (by rw [hissues, h]; rfl)
    rw [htokens', htokens, TokenStore.authorize, TokenStore.authorize, Credentials.authorize,
      Table.get?_insert, if_neg hother, Credentials.authorize]

theorem Outcome.others (h : Outcome r k q answer r') {other : String}
    (hother : q.resolves? ≠ some other) :
    r'.storage.cache.users.userByName? other = r.storage.cache.users.userByName? other ∧
    (other ∈ r'.requested ↔ other ∈ r.requested) ∧
    r'.engine.map (·.isWatching other) = r.engine.map (·.isWatching other) := by
  have hwatch {name : String} (hname : name ≠ other) (r : Registry) :
      (other ∈ (r.watch name).requested ↔ other ∈ r.requested) ∧
      (r.watch name).engine.map (·.isWatching other) = r.engine.map (·.isWatching other) := by
    refine ⟨?_, ?_⟩
    · rw [Registry.watch, List.mem_append, List.mem_singleton, or_iff_left hname.symm]
    · rw [Registry.watch, Option.map_map]
      congr 1
      funext e
      rw [Function.comp_apply, e.isWatching_watch, decide_eq_false hname, Bool.or_false]
  cases h with
  | single => exact ⟨rfl, .rfl, rfl⟩
  | refused => exact ⟨rfl, .rfl, rfl⟩
  | recognized => exact ⟨rfl, hwatch (fun h => hother (congrArg some h)) r⟩
  | withheld => exact ⟨rfl, .rfl, rfl⟩
  | issued _ _ _ hpublish =>
    obtain ⟨⟨log, rfl⟩, -⟩ := publish_frame hpublish
    exact ⟨rfl, .rfl, rfl⟩
  | @letIn u _ _ _ _ _ _ hpublish =>
    obtain ⟨⟨log, rfl⟩, -⟩ := publish_frame hpublish
    have hname : u.name ≠ other := fun h => hother (congrArg some h)
    refine ⟨?_, hwatch hname _⟩
    exact (Directory.userByName?_add ..).trans (if_neg hname.symm)

theorem Outcome.issue (h : Outcome r k q answer r') {issue : Action Registry AuthError String}
    (hissue : q.issue? = some issue) {name fresh : String}
    (hissues : q.issues? = some (name, fresh)) :
    r'.storage.cache = r.storage.cache ∧ r'.requested = r.requested ∧ r'.engine = r.engine ∧
      ((∃ cause, (issue.on r).1 = .error cause) ∧ r' = r ∨
        (issue.on r).1 = .ok fresh ∧
          ∀ token, r'.tokens.authorize name token = .ok (decide (fresh = token))) := by
  have hnew (u : User) (token : String) :
      (TokenStore.memory (k.insert u.name u.credential)).authorize
        u.name token = .ok (decide (u.token = token)) := by
    rw [TokenStore.authorize, Credentials.authorize, Table.get?_insert_self]
    rfl
  cases h with
  | single => cases hissue
  | refused hrefused => exact ⟨rfl, rfl, rfl, .inl ⟨hrefused issue hissue, rfl⟩⟩
  | recognized => cases hissue
  | @withheld _ u _ _ hasks hissued hasked _ =>
    cases hasks.symm.trans hissue
    cases hasked.symm.trans hissues
    exact ⟨rfl, rfl, rfl, .inr ⟨hissued, hnew u⟩⟩
  | @issued _ u _ _ _ hasks hissued hasked hpublish =>
    cases hasks.symm.trans hissue
    cases hasked.symm.trans hissues
    obtain ⟨⟨log, rfl⟩, -⟩ := publish_frame hpublish
    exact ⟨rfl, rfl, rfl, .inr ⟨hissued, hnew u⟩⟩
  | letIn => cases hissue

end

/-- What a request that fails leaves behind.  The token store has changed only for the user that a
token was asked for, and only if it issued the token; the cached users and the watched streams, only
for the user that was to be let in, and only if the log failed. -/
theorem serve_failed {r r' : Registry} {k : Credentials} (htokens : r.tokens = .memory k)
    {q : Gate.Request} {e : GateError} (hserve : q.serve.on r = (.error e, r')) :
    (∀ name, q.issues?.map (·.1) ≠ some name →
      ∀ token, r'.tokens.authorize name token = r.tokens.authorize name token) ∧
    (∀ issue name fresh, q.issue? = some issue → q.issues? = some (name, fresh) →
      r'.storage.cache = r.storage.cache ∧ r'.requested = r.requested ∧ r'.engine = r.engine ∧
      ((∃ cause, (issue.on r).1 = .error cause) ∧ r' = r ∨
        (issue.on r).1 = .ok fresh ∧
          ∀ token, r'.tokens.authorize name token = .ok (decide (fresh = token)))) ∧
    (q.issue? = none → (∀ cause, e ≠ .storage (.log cause)) → r' = r) ∧
    (∀ other, q.resolves? ≠ some other →
      r'.storage.cache.users.userByName? other = r.storage.cache.users.userByName? other ∧
      (other ∈ r'.requested ↔ other ∈ r.requested) ∧
      r'.engine.map (·.isWatching other) = r.engine.map (·.isWatching other)) := by
  obtain ⟨answer, r₁, hanswer, houtcome⟩ := exists_outcome htokens q
  cases hanswer.symm.trans hserve
  exact ⟨fun name hname => houtcome.authorize htokens hname,
    fun issue name fresh hissue hissues => houtcome.issue hissue hissues, houtcome.unchanged,
    fun other => houtcome.others⟩

theorem serve_failed_unpublished :
    let r : Registry :=
      { storage := ⟨some (.memory ∅), ∅, none, [.logAppend]⟩, engine := none,
        requested := ["globex"], tokens :=
  .memory (((∅ : Credentials).issue "acme" false "T1").issue "globex" false "T2"),
        tenancy := .multi, policy := ⟨.recordFields, .backward⟩ }
    ∃ r', (Request.serve (.createUser "acme" true "T3")).on r =
        (.error (.storage (.log (.io "admin" .down))), r') ∧
      r'.tokens.authorize "globex" "T2" = .ok true ∧ r'.tokens.authorize "acme" "T1" = .ok false ∧
      r'.tokens.authorize "acme" "T3" = .ok true ∧ r'.requested = ["globex"] := by
  intro r
  refine ⟨_, rfl, ?_⟩
  obtain ⟨hothers, hissue, -, -⟩ :=
    serve_failed (r := r) (q := .createUser "acme" true "T3") rfl rfl
  obtain ⟨-, hrequested, -, ⟨⟨_, hrefused⟩, -⟩ | ⟨-, hissued⟩⟩ := hissue _ _ _ rfl rfl
  · cases hrefused
  · exact ⟨(hothers "globex" (by decide) "T2").trans (by decide), (hissued "T1").trans (by decide),
      (hissued "T3").trans (by decide), hrequested⟩

/-- A user whose new token could not be published is not let in with the old one. -/
theorem refreshToken_locksOut :
    let r : Registry :=
      { storage := ⟨some (.memory ∅), ∅, none, [.logAppend]⟩, engine := none, requested := [],
        tokens := .memory ((∅ : Credentials).issue "acme" false "T1"), tenancy := .multi,
        policy := ⟨.recordFields, .backward⟩ }
    ∃ r', (refreshToken "acme" "T2").on r = (.error (.storage (.log (.io "admin" .down))), r') ∧
      r.tokens.authorize "acme" "T1" = .ok true ∧ r'.tokens.authorize "acme" "T1" = .ok false ∧
      ((resolve (some "acme") (some "T1")).on r').1 = .error (.unauthorized "acme") := by
  intro r
  exact ⟨_, rfl, by decide, by decide, by decide⟩

end Gate

end SchemaRegistry
