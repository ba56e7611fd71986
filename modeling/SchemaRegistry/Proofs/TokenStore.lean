import SchemaRegistry.Auth.TokenStore
import SchemaRegistry.Proofs.Secret
import SchemaRegistry.Proofs.Table
import SchemaRegistry.Proofs.TokenCalls

/-!
Token stores answer alike: what is kept in memory and what a secret service keeps are both one cell
for each name, and a call changes the cell of its user alone.
-/

namespace SchemaRegistry

open TokenCall (serveAll)
open TokenHistory (issuedTo)

namespace TokenStore

def serve : TokenCall → Action TokenStore AuthError TokenReply
  | .addUser name admin fresh => return .issued (← addUser name admin fresh)
  | .refresh name fresh => return .issued (← refresh name fresh)
  | .authorize name token => return .verdict (← Action.ask (·.authorize name token))
  | .isAdmin name => return .verdict (← Action.ask (·.isAdmin name))

theorem serve_memory (k : Credentials) (c : TokenCall) : ∃ k' : Credentials,
    (serve c).on (.memory k) = ((c.onCell (k.get? c.name)).1, .memory k') ∧
      k'.get? = Function.update k.get? c.name (c.onCell (k.get? c.name)).2 := by
  cases c with
  | addUser name admin fresh =>
    refine ⟨k.issue name admin fresh, rfl, ?_⟩
    funext other
    simp [Credentials.issue, Table.get?_insert, Function.update_apply, TokenCall.onCell,
      TokenCall.name]
  | refresh name fresh =>
    cases hk : k.get? name with
    | none =>
      refine ⟨k, ?_, ?_⟩
      · simp only [serve, refresh, Credentials.refresh, Action.on_bind, Action.on_of, hk,
          TokenCall.onCell, TokenCall.name]
        rfl
      · simp [TokenCall.onCell, TokenCall.name, hk]
    | some old =>
      refine ⟨k.insert name ⟨fresh, old.admin⟩, ?_, ?_⟩
      · simp only [serve, refresh, Credentials.refresh, Action.on_bind, Action.on_of, hk,
          TokenCall.onCell, TokenCall.name]
        rfl
      · funext other
        simp [Table.get?_insert, Function.update_apply, TokenCall.onCell, TokenCall.name, hk]
  | authorize name token =>
    refine ⟨k, rfl, ?_⟩
    simp [TokenCall.onCell, TokenCall.name]
  | isAdmin name =>
    refine ⟨k, ?_, ?_⟩
    · simp only [serve, isAdmin, Credentials.isAdmin, Action.on_bind, Action.on_ask,
        TokenCall.onCell, TokenCall.name]
      cases k.get? name <;> rfl
    · simp [TokenCall.onCell, TokenCall.name]

theorem serve_memory_error {k : Credentials} {c : TokenCall} {e : AuthError}
    (h : ((serve c).on (.memory k)).1 = .error e) : ((serve c).on (.memory k)).2 = .memory k := by
  obtain ⟨k', hserve, hk'⟩ := serve_memory k c
  rw [hserve] at h ⊢
  rw [TokenCall.onCell_error h, Function.update_eq_self] at hk'
  exact congrArg memory (Table.ext_get? fun name => congrFun hk' name)

theorem serveAll_memory (calls : List TokenCall) :
    (serveAll serve calls .empty).1 = (serveAll Cells.serve calls fun _ => none).1 := by
  have hstep (c : TokenCall) (_ : c ∈ calls) (t : TokenStore) (k : Cells)
      (h : ∃ m : Credentials, t = .memory m ∧ m.get? = k) :
      ((serve c).on t).1 = ((Cells.serve c).on k).1 ∧
        ∃ m : Credentials, ((serve c).on t).2 = .memory m ∧ m.get? = ((Cells.serve c).on k).2 := by
    obtain ⟨m, rfl, rfl⟩ := h
    obtain ⟨m', hserve, hm'⟩ := serve_memory m c
    rw [hserve]
    exact ⟨rfl, m', rfl, hm'⟩
  exact (TokenCall.serveAll_simulates hstep ⟨∅, rfl, rfl⟩).1

end TokenStore

def Credential.secret (k : Credential) : Secret := ⟨k.token, k.admin⟩

namespace Vault

variable {v : Vault} {σ : Type} {send : SecretRequest → σ → Exchange × σ}
  {stored : σ → String → Option Bytes} {s s' : σ} {k : Cells}

def serve (v : Vault) (send : SecretRequest → σ → Exchange × σ) :
    TokenCall → Action σ AuthError TokenReply
  | .addUser name admin fresh => return .issued (← v.addUser send name admin fresh)
  | .refresh name fresh => return .issued (← v.refresh send name fresh)
  | .authorize name token => return .verdict (← v.authorize send name token)
  | .isAdmin name => return .verdict (← v.isAdmin send name)

/-- The service keeps the cells, each at the place of its user. -/
def Mirrors (v : Vault) (stored : σ → String → Option Bytes) (k : Cells) (s : σ) : Prop :=
  ∀ name, v.Serves name →
    stored s (v.place name) = ((k name).map Credential.secret).map Secret.write

theorem Mirrors.congr (h : v.Mirrors stored k s) (hs : stored s' = stored s) :
    v.Mirrors stored k s' := by
  intro name hname
  rw [hs, h name hname]

theorem Mirrors.update (h : v.Mirrors stored k s) {name : String} (hname : v.Serves name)
    (credential : Credential)
    (hs : stored s' = Function.update (stored s) (v.place name) (some credential.secret.write)) :
    v.Mirrors stored (Function.update k name (some credential)) s' := by
  intro other hother
  rw [hs]
  by_cases heq : other = name
  · subst heq
    rw [Function.update_self, Function.update_self]
    rfl
  · -- two names, two places
    have hplace : v.place other ≠ v.place name := by rwa [ne_eq, place_inj hother.clean hname.clean]
    rw [Function.update_of_ne hplace, Function.update_of_ne heq, h other hother]

theorem Mirrors.serve (h : v.Mirrors stored k s) (hscheme : v.base.scheme ≠ "file")
    (hservice : SecretService v.config.token send stored) {c : TokenCall} (hc : v.Serves c.name) :
    ∃ s', (v.serve send c).on s = ((c.onCell (k c.name)).1, s') ∧
      v.Mirrors stored (Function.update k c.name (c.onCell (k c.name)).2) s' ∧
      ∀ e, (c.onCell (k c.name)).1 = .error e → stored s' = stored s := by
  cases c with
  | addUser name admin fresh =>
    change v.Serves name at hc
    obtain ⟨s', hwrite, hs'⟩ := hc.write hscheme hservice ⟨fresh, admin⟩ s
    refine ⟨s', ?_, h.update hc ⟨fresh, admin⟩ hs', fun _ herror => by cases herror⟩
    simp only [Vault.serve, addUser, Action.on_bind, hwrite]
    rfl
  | refresh name fresh =>
    change v.Serves name at hc
    obtain ⟨s₁, hread, hs₁⟩ := hc.read hscheme hservice (h name hc)
    simp only [TokenCall.onCell, TokenCall.name]
    cases hk : k name with
    | none =>
      rw [hk] at hread
      refine ⟨s₁, ?_, ?_, fun _ _ => hs₁⟩
      · simp only [Vault.serve, refresh, Action.on_bind, hread]
        rfl
      · have hsame : Function.update k name none = k := Function.update_eq_self_iff.2 hk.symm
        change v.Mirrors stored (Function.update k name none) s₁
        rw [hsame]
        exact h.congr hs₁
    | some old =>
      rw [hk] at hread
      obtain ⟨s₂, hwrite, hs₂⟩ := hc.write hscheme hservice ⟨fresh, old.admin⟩ s₁
      refine ⟨s₂, ?_, h.update hc ⟨fresh, old.admin⟩ (hs₁ ▸ hs₂),
        fun _ herror => by cases herror⟩
      simp only [Vault.serve, refresh, Action.on_bind, hread, Option.map_some, Credential.secret,
        hwrite]
      rfl
  | authorize name token =>
    change v.Serves name at hc
    obtain ⟨s', hread, hs'⟩ := hc.read hscheme hservice (h name hc)
    refine ⟨s', ?_, ?_, fun _ _ => hs'⟩
    · simp only [Vault.serve, authorize, Action.on_bind, hread, TokenCall.onCell, TokenCall.name]
      cases k name <;> rfl
    · simpa [TokenCall.onCell, TokenCall.name] using h.congr hs'
  | isAdmin name =>
    change v.Serves name at hc
    obtain ⟨s', hread, hs'⟩ := hc.read hscheme hservice (h name hc)
    refine ⟨s', ?_, ?_, fun _ _ => hs'⟩
    · simp only [Vault.serve, isAdmin, Action.on_bind, hread, TokenCall.onCell, TokenCall.name]
      cases k name <;> rfl
    · simpa [TokenCall.onCell, TokenCall.name] using h.congr hs'

theorem Mirrors.serveAll (h : v.Mirrors stored k s) (hscheme : v.base.scheme ≠ "file")
    (hservice : SecretService v.config.token send stored) {calls : List TokenCall}
    (hnames : ∀ c ∈ calls, v.Serves c.name) :
    (TokenCall.serveAll (v.serve send) calls s).1 = (TokenCall.serveAll Cells.serve calls k).1 ∧
      v.Mirrors stored (TokenCall.serveAll Cells.serve calls k).2
        (TokenCall.serveAll (v.serve send) calls s).2 := by
  refine TokenCall.serveAll_simulates (R := fun s k => v.Mirrors stored k s)
    (fun c hc s k h => ?_) h
  obtain ⟨s', hserve, hs', -⟩ := h.serve hscheme hservice (hnames c hc)
  rw [hserve]
  exact ⟨rfl, hs'⟩

/-- A secret service and a store in memory, both new, are one token store: they answer alike, each
call as is told from the calls before it. -/
theorem serveAll_serve (hscheme : v.base.scheme = "http" ∨ v.base.scheme = "https")
    (hservice : SecretService v.config.token send stored) (hnew : ∀ url, stored s url = none)
    {calls : List TokenCall} (hnames : ∀ c ∈ calls, v.Serves c.name) :
    let history := (serveAll (v.serve send) calls s).1
    -- both stores answer alike, also when each has tokens of its own to issue
    history = (serveAll TokenStore.serve calls .empty).1 ∧
    (∀ f, Function.Injective f →
      (serveAll TokenStore.serve (calls.map (·.rename f)) .empty).1 = history.rename f) ∧
    -- every answer is told from the calls before
    (∀ past c answer rest, history = past ++ (c, answer) :: rest → answer = c.expected past) ∧
    -- a token that was followed by another is refused from then on
    ((calls.filterMap (·.fresh?)).Nodup → ∀ earlier later rest name token answer,
      history = earlier ++ later ++ (.authorize name token, answer) :: rest →
      token ∈ issuedTo name earlier → issuedTo name later ≠ [] → answer = .ok (.verdict false)) ∧
    -- the calls of one user are answered as if there were no others
    (∀ name, history.filter (·.1.name = name) =
      (serveAll (v.serve send) (calls.filter (·.name = name)) s).1) ∧
    -- a call that fails changes nothing
    (∀ front c rest e, calls = front ++ c :: rest →
      let t := (serveAll (v.serve send) front s).2
      ((v.serve send c).on t).1 = .error e → stored ((v.serve send c).on t).2 = stored t) ∧
    ∀ k c e, ((TokenStore.serve c).on (.memory k)).1 = .error e →
      ((TokenStore.serve c).on (.memory k)).2 = .memory k := by
  intro history
  have hfile : v.base.scheme ≠ "file" := by
    rcases hscheme with h | h <;> simp [h]
  have hstart : v.Mirrors stored (fun _ => none) s := fun name _ => hnew _
  have hserved : history = (serveAll Cells.serve calls fun _ => none).1 :=
    (hstart.serveAll hfile hservice hnames).1
  have hexpected : TokenHistory.Expected [] history := by
    have hagrees : Cells.Agrees [] fun _ => none := ⟨fun _ => rfl, fun _ => rfl⟩
    exact hserved ▸ hagrees.serveAll calls
  refine ⟨hserved.trans (TokenStore.serveAll_memory calls).symm, fun f hf => ?_, ?_,
    fun hfresh => ?_, fun name => ?_, ?_, fun k c e => TokenStore.serve_memory_error⟩
  · rw [TokenStore.serveAll_memory, hserved, ← Cells.rename_serveAll hf]
    rfl
  · rintro past c answer rest hhistory
    exact (hhistory ▸ hexpected).answer
  · intro earlier later rest name token answer
    refine hexpected.superseded ?_
    rwa [TokenCall.map_fst_serveAll]
  · have hfiltered : ∀ c ∈ calls.filter (·.name = name), v.Serves c.name := fun c hc =>
      hnames c (List.mem_of_mem_filter hc)
    rw [(hstart.serveAll hfile hservice hfiltered).1, hserved]
    exact Cells.filter_serveAll calls _ _ rfl
  · rintro front c rest e rfl t herror
    obtain ⟨hfront, hc⟩ := List.forall_mem_append.1 hnames
    obtain ⟨s', hserve, -, hkept⟩ := (hstart.serveAll hfile hservice hfront).2.serve hfile hservice
      (List.forall_mem_cons.1 hc).1
    rw [hserve] at herror ⊢
    exact hkept e herror

theorem serveAll_serve_paths :
    let config : VaultConfig := ⟨"http://[::1]:8200/", "root", "secret/token", 1000⟩
    let v : Vault :=
      ⟨config, ⟨"http", .authority .nobody (some "[::1]") (some 8200), .segments [""], none, none⟩⟩
    let calls : List TokenCall := [.addUser "a/../b" true "t1", .refresh "a/../b" "t2",
      .authorize "a/../b" "t1", .authorize "a/../b" "t2", .isAdmin "a/../b",
      .refresh "a%2F..%2Fb" "t3"]
    connect config = .ok v ∧ (v.base.scheme = "http" ∨ v.base.scheme = "https") ∧
      SecretService v.config.token SecretService.table Table.get? ∧ (∀ c ∈ calls, v.Serves c.name) ∧
      (calls.filterMap (·.fresh?)).Nodup ∧
      ((serveAll (v.serve SecretService.table) calls ∅).1.map fun x => x.2) =
        [.ok (.issued "t1"), .ok (.issued "t2"), .ok (.verdict false), .ok (.verdict true),
          .ok (.verdict true), .error (.userNotFound "a%2F..%2Fb")] := by
  intro config v calls
  have hconnect : connect config = .ok v := by decide +kernel
  have hscheme : v.base.scheme = "http" ∨ v.base.scheme = "https" := .inl rfl
  have hservice : SecretService v.config.token SecretService.table Table.get? :=
    secretService_table "root"
  have hnew : ∀ url, (∅ : Table Bytes).get? url = none := fun _ => rfl
  have hnames : ∀ c ∈ calls, v.Serves c.name := by
    have hpath : v.Serves "a/../b" := ⟨by decide, by decide, by decide +kernel⟩
    have hother : v.Serves "a%2F..%2Fb" := ⟨by decide, by decide, by decide +kernel⟩
    simp [calls, TokenCall.name, hpath, hother]
  have hmemory := (serveAll_serve hscheme hservice hnew hnames).1
  refine ⟨hconnect, hscheme, hservice, hnames, by decide, ?_⟩
  rw [hmemory]
  decide +kernel

end Vault

end SchemaRegistry
