import Mathlib.Data.List.Permutation
import SchemaRegistry.Proofs.JsonLayout
import SchemaRegistry.Proofs.SecretUrl

/-!
Secrets of users behind a service that keeps under each URL the object last written there.  What it
answers may have members of its own around that object, and the object's may come in another order
and spelling.
-/

namespace SchemaRegistry

namespace Json

inductive Says : Value → Bytes → Prop
  | string {s : String} {text : Bytes} (h : Reads (readString "a string") text s) :
    Says (.string s) text
  | bool (b : Bool) : Says (.bool b) (writeBool b)

def SaysObject (ms : List (String × Value)) (text : Bytes) : Prop :=
  ∃ ns, List.Forall₂ (fun m n => n.1 = m.1 ∧ Says m.2 n.2) ms ns ∧ text = writeObject ns

theorem Says.eq_writeBool {b : Bool} {text : Bytes} (h : Says (.bool b) text) :
    text = writeBool b := by
  cases h
  rfl

theorem Says.reads_string {s : String} {text : Bytes} (h : Says (.string s) text) :
    Reads (readString "a string") text s := by
  cases h with
  | string h => exact h

theorem SaysObject.pair {m n : String × Value} {text : Bytes} (h : SaysObject [m, n] text) :
    ∃ x y, Says m.2 x ∧ Says n.2 y ∧ text = writeObject [(m.1, x), (n.1, y)] := by
  obtain ⟨ns, hns, rfl⟩ := h
  simp only [List.forall₂_cons_left_iff, List.forall₂_nil_left_iff] at hns
  obtain ⟨⟨_, x⟩, _, ⟨rfl, hx⟩, ⟨⟨_, y⟩, _, ⟨rfl, hy⟩, rfl, rfl⟩, rfl⟩ := hns
  exact ⟨x, y, hx, hy, rfl⟩

end Json

open Json (Reads Skipped Says SaysObject)

namespace Secret

def members (s : Secret) : List (String × Json.Value) :=
  [("token", .string s.token), ("admin", .bool s.admin)]

theorem saysObject_write (s : Secret) : SaysObject s.members s.write := by
  refine ⟨_, ?_, rfl⟩
  exact .cons ⟨rfl, .string (Json.reads_writeString _ s.token)⟩ (.cons ⟨rfl, .bool s.admin⟩ .nil)

def Answers (posted : List (String × Json.Value)) (body : Bytes) : Prop :=
  ∃ ms data before after blanks, ms.Perm posted ∧ SaysObject ms data ∧
    (∀ m ∈ before ++ after, m.1 ≠ "data" ∧ Skipped m.2) ∧ (∀ b ∈ blanks, Json.isBlank b) ∧
    body = Json.writeObject (before ++ ("data", data) :: after) ++ blanks

theorem reads_saysObject {s : Secret} {ms : List (String × Json.Value)} {data : Bytes}
    (hms : ms.Perm s.members) (hdata : SaysObject ms data) :
    Reads layout.read data (some s.token, s.admin) := by
  rcases List.perm_pair.1 hms with rfl | rfl
  · obtain ⟨token, admin, htoken, hadmin, rfl⟩ := hdata.pair
    have hmet : ["token"].contains "admin" = false := by decide
    have htakes : layout.Takes [] layout.start [("token", token), ("admin", Json.writeBool s.admin)]
        (some s.token, s.admin) :=
      .field rfl rfl (htoken.reads_string.field _ _)
        (.field rfl hmet ((Json.reads_writeBool s.admin).field _ _) (.nil rfl))
    rw [hadmin.eq_writeBool]
    exact fun rest _ => htakes.reads rest
  · obtain ⟨admin, token, hadmin, htoken, rfl⟩ := hdata.pair
    have hmet : ["admin"].contains "token" = false := by decide
    have htakes : layout.Takes [] layout.start [("admin", Json.writeBool s.admin), ("token", token)]
        (some s.token, s.admin) :=
      .field rfl rfl ((Json.reads_writeBool s.admin).field _ _)
        (.field rfl hmet (htoken.reads_string.field _ _) (.nil rfl))
    rw [hadmin.eq_writeBool]
    exact fun rest _ => htakes.reads rest

theorem read?_answers {s : Secret} {body : Bytes} (h : Answers s.members body) :
    read? body = some s := by
  obtain ⟨ms, data, before, after, blanks, hms, hdata, hothers, hblanks, rfl⟩ := h
  have hother (m : String × Bytes) (hm : m ∈ before ++ after) :
      responseLayout.fields.find? (·.name = m.1) = none ∧ Skipped m.2 := by
    obtain ⟨hname, hvalue⟩ := hothers m hm
    exact ⟨by simpa [responseLayout, Json.Field.of] using Ne.symm hname, hvalue⟩
  have hafter :
      responseLayout.Takes ["data"] (some s.token, s.admin) (after ++ []) (some s.token, s.admin) :=
    .others (fun m hm => hother m (List.mem_append_right _ hm)) (.nil rfl)
  rw [List.append_nil] at hafter
  have hdata : responseLayout.Takes [] responseLayout.start (("data", data) :: after)
      (some s.token, s.admin) :=
    .field rfl rfl ((reads_saysObject hms hdata).field _ _) hafter
  have htakes := hdata.others fun m hm => hother m (List.mem_append_left _ hm)
  rw [read?, htakes.readAll hblanks]

end Secret

/-- A service that answers who has the token: it keeps under each URL what was last written there,
and finds nothing under any other. -/
structure SecretService {σ : Type} (token : String) (send : SecretRequest → σ → Exchange × σ)
    (stored : σ → String → Option Bytes) : Prop where
  missing : ∀ {r s}, r.call = .read → r.token = token → stored s r.url.render = none →
    ∃ body, (send r s).1 = .answered Status.notFound body
  present : ∀ {r s text posted}, r.call = .read → r.token = token →
    stored s r.url.render = some text → SaysObject posted text →
      ∃ status body, (send r s).1 = .answered status body ∧ Status.isSuccess status ∧
        Secret.Answers posted body
  unchanged : ∀ {r s}, r.call = .read → r.token = token → stored (send r s).2 = stored s
  written : ∀ {r s text}, r.call = .write → r.token = token → r.body = some text →
    (∃ status body, (send r s).1 = .answered status body ∧ Status.isSuccess status) ∧
    stored (send r s).2 = Function.update (stored s) r.url.render (some text)

def SecretService.table (r : SecretRequest) (kept : Table Bytes) : Exchange × Table Bytes :=
  match r.call, r.body with
  | .read, _ =>
    match kept.get? r.url.render with
    | none => (.answered Status.notFound [], kept)
    | some text =>
      (.answered 200 (Json.writeObject [("auth", utf8 "null"), ("data", text)]), kept)
  | .write, some text => (.answered 204 [], kept.insert r.url.render text)
  | .write, none => (.answered 400 [], kept)

theorem secretService_table (token : String) :
    SecretService token SecretService.table Table.get? where
  missing {r s} hcall _ hs := by
    simp only [SecretService.table, hcall, hs]
    exact ⟨[], rfl⟩
  present {r s text posted} hcall _ hs hposted := by
    simp only [SecretService.table, hcall, hs]
    refine ⟨200, _, rfl, rfl, posted, text, [("auth", utf8 "null")], [], [], .refl _, hposted,
      ?_, by simp, (List.append_nil _).symm⟩
    simp only [List.append_nil, List.forall_mem_singleton]
    exact ⟨by decide, Json.skipped_null⟩
  unchanged {r s} hcall _ := by
    simp only [SecretService.table, hcall]
    cases s.get? r.url.render <;> rfl
  written {r s text} hcall _ hbody := by
    simp only [SecretService.table, hcall, hbody]
    refine ⟨⟨204, [], rfl, rfl⟩, ?_⟩
    funext url
    simp [Table.get?_insert, Function.update_apply]

namespace Vault

open Url (Clean Proper)

def Reaches (v : Vault) (name : String) : Prop := ∃ r, v.request .read name none = .ok r

instance (v : Vault) (name : String) : Decidable (v.Reaches name) :=
  match h : v.request .read name none with
  | .ok r => isTrue ⟨r, h⟩
  | .error _ => isFalse fun ⟨_, hr⟩ => nomatch h.symm.trans hr

def place (v : Vault) (name : String) : String :=
  Url.render { v.base.withoutUser with path := .segments (Url.trunk (stem v.base v.config.mount) ++
    [Url.encodeSegment (Url.isSpecialScheme v.base.scheme) name]) }

structure Serves (v : Vault) (name : String) : Prop where
  clean : Clean name
  proper : Proper name
  reaches : v.Reaches name

variable {v : Vault} {name other : String}

theorem Serves.request (h : v.Serves name) (hscheme : v.base.scheme ≠ "file") (call : SecretCall)
    (body : Option Bytes) :
    ∃ url : Url, v.request call name body = .ok ⟨call, url, v.config.token, body⟩ ∧
      url.render = v.place name := by
  have hstrip : Url.strip name = name := Url.strip_eq_self.2 h.clean
  have hurl : secretUrl v.base v.config.mount name = .ok _ :=
    secretUrl_proper hscheme h.proper (hstrip.symm ▸ h.proper)
  obtain ⟨r, hr⟩ := h.reaches
  simp only [Vault.request, hurl, bind, Except.bind] at hr ⊢
  split at hr
  · cases hr
  · next hhost =>
    split at hr
    · cases hr
    · next htoken =>
      split at hr
      · cases hr
      · next hask =>
        rw [if_neg hhost, if_neg htoken, if_neg hask]
        exact ⟨_, rfl, rfl⟩

theorem place_inj (hname : Clean name) (hother : Clean other) :
    v.place name = v.place other ↔ name = other := by
  rw [place, place, Url.render_segments_inj, Url.encodeSegment_inj, Url.strip_eq_self.2 hname,
    Url.strip_eq_self.2 hother]

section

variable {σ : Type} {send : SecretRequest → σ → Exchange × σ}
  {stored : σ → String → Option Bytes} {s : σ}

theorem on_exchange {r : SecretRequest} {status : Nat} {body : Bytes}
    (h : (send r s).1 = .answered status body) :
    (exchange send r).on s = (.ok (status, body), (send r s).2) := by
  rw [exchange, Action.on_of]
  split <;> simp_all

theorem Serves.read (h : v.Serves name) (hscheme : v.base.scheme ≠ "file")
    (hservice : SecretService v.config.token send stored) {secret? : Option Secret}
    (hs : stored s (v.place name) = secret?.map Secret.write) :
    ∃ s', (v.read send name).on s = (.ok secret?, s') ∧ stored s' = stored s := by
  obtain ⟨url, hrequest, hplace⟩ := h.request hscheme .read none
  rw [← hplace] at hs
  refine ⟨(send ⟨.read, url, v.config.token, none⟩ s).2, ?_, hservice.unchanged rfl rfl⟩
  cases secret? with
  | none =>
    obtain ⟨body, hanswer⟩ := hservice.missing (r := ⟨.read, url, v.config.token, none⟩) rfl rfl hs
    simp only [Vault.read, Action.on_bind, Action.on_ask, hrequest, on_exchange hanswer, ↓reduceIte]
    rfl
  | some secret =>
    obtain ⟨status, body, hanswer, hsuccess, hbody⟩ :=
      hservice.present (r := ⟨.read, url, v.config.token, none⟩) rfl rfl hs secret.saysObject_write
    have hfound : status ≠ Status.notFound := by
      rintro rfl
      cases hsuccess
    simp only [Vault.read, Action.on_bind, Action.on_ask, hrequest, on_exchange hanswer, hfound,
      hsuccess, Secret.read?_answers hbody, ↓reduceIte]
    rfl

theorem Serves.write (h : v.Serves name) (hscheme : v.base.scheme ≠ "file")
    (hservice : SecretService v.config.token send stored) (secret : Secret) (s : σ) :
    ∃ s', (v.write send name secret).on s = (.ok (), s') ∧
      stored s' = Function.update (stored s) (v.place name) (some secret.write) := by
  obtain ⟨url, hrequest, hplace⟩ := h.request hscheme .write (some secret.write)
  obtain ⟨⟨status, body, hanswer, hsuccess⟩, hstored⟩ :=
    hservice.written (r := ⟨.write, url, v.config.token, some secret.write⟩) (s := s) rfl rfl rfl
  refine ⟨_, ?_, hplace ▸ hstored⟩
  simp only [Vault.write, Action.on_bind, Action.on_ask, hrequest, on_exchange hanswer, hsuccess]
  rfl

end

end Vault

end SchemaRegistry
