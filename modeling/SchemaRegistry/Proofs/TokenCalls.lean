import Mathlib.Data.List.Nodup
import Mathlib.Logic.Function.Basic
import SchemaRegistry.Auth.Credentials

/-!
Calls of a token store.  A call looks at the credential of one user and leaves a credential or none
behind, so a store is as good as one cell for each name.  What a call is answered can be told from
the calls before it, with their answers, and from nothing else.
-/

namespace SchemaRegistry

inductive TokenCall
  | addUser (name : String) (admin : Bool) (fresh : String)
  | refresh (name fresh : String)
  | authorize (name token : String)
  | isAdmin (name : String)
  deriving DecidableEq, Repr

inductive TokenReply
  | issued (token : String)
  | verdict (yes : Bool)
  deriving DecidableEq, Repr

abbrev TokenAnswer := Except AuthError TokenReply

abbrev TokenHistory := List (TokenCall × TokenAnswer)

namespace TokenCall

def name : TokenCall → String
  | addUser name _ _ => name
  | refresh name _ => name
  | authorize name _ => name
  | isAdmin name => name

def fresh? : TokenCall → Option String
  | addUser _ _ fresh => some fresh
  | refresh _ fresh => some fresh
  | authorize _ _ => none
  | isAdmin _ => none

def rename (f : String → String) : TokenCall → TokenCall
  | addUser name admin fresh => addUser name admin (f fresh)
  | refresh name fresh => refresh name (f fresh)
  | authorize name token => authorize name (f token)
  | isAdmin name => isAdmin name

@[simp] theorem name_rename (f : String → String) (c : TokenCall) : (c.rename f).name = c.name := by
  cases c <;> rfl

def serveAll {σ : Type} (serve : TokenCall → Action σ AuthError TokenReply) :
    List TokenCall → σ → TokenHistory × σ
  | [], s => ([], s)
  | c :: cs, s =>
    let (answer, s) := (serve c).on s
    let (history, s) := serveAll serve cs s
    ((c, answer) :: history, s)

theorem map_fst_serveAll {σ : Type} (serve : TokenCall → Action σ AuthError TokenReply)
    (calls : List TokenCall) (s : σ) : (serveAll serve calls s).1.map (·.1) = calls := by
  induction calls generalizing s with
  | nil => rfl
  | cons c calls ih => simp [serveAll, ih]

theorem serveAll_simulates {σ τ : Type} {serve : TokenCall → Action σ AuthError TokenReply}
    {serve' : TokenCall → Action τ AuthError TokenReply} {R : σ → τ → Prop} {calls : List TokenCall}
    (hstep : ∀ c ∈ calls, ∀ s t, R s t →
      ((serve c).on s).1 = ((serve' c).on t).1 ∧ R ((serve c).on s).2 ((serve' c).on t).2)
    {s : σ} {t : τ} (h : R s t) : (serveAll serve calls s).1 = (serveAll serve' calls t).1 ∧
      R (serveAll serve calls s).2 (serveAll serve' calls t).2 := by
  induction calls generalizing s t with
  | nil => exact ⟨rfl, h⟩
  | cons c calls ih =>
    obtain ⟨hc, hcalls⟩ := List.forall_mem_cons.1 hstep
    obtain ⟨hanswer, hleft⟩ := hc s t h
    obtain ⟨hhistory, hend⟩ := ih hcalls hleft
    exact ⟨by simp only [serveAll, hanswer, hhistory], hend⟩

end TokenCall

open TokenCall (serveAll)

def TokenReply.rename (f : String → String) : TokenReply → TokenReply
  | issued token => issued (f token)
  | verdict yes => verdict yes

namespace TokenHistory

def issuedTo (name : String) (history : TokenHistory) : List String :=
  history.filterMap fun
    | (c, .ok (.issued token)) => if c.name = name then some token else none
    | _ => none

def flagsOf (name : String) (history : TokenHistory) : List Bool :=
  history.filterMap fun
    | (.addUser n admin _, _) => if n = name then some admin else none
    | _ => none

def rename (f : String → String) (history : TokenHistory) : TokenHistory :=
  history.map fun x => (x.1.rename f, x.2.map (·.rename f))

end TokenHistory

open TokenHistory (issuedTo flagsOf)

/-- What a call is answered, by the calls before it: the token that was last issued to a user is the
one that is good, and the flag the user was last added with counts. -/
def TokenCall.expected (past : TokenHistory) : TokenCall → TokenAnswer
  | addUser _ _ fresh => .ok (.issued fresh)
  | refresh name fresh =>
    if flagsOf name past = [] then .error (.userNotFound name) else .ok (.issued fresh)
  | authorize name token => .ok (.verdict ((issuedTo name past).getLast? = some token))
  | isAdmin name =>
    (flagsOf name past).getLast?.elim (.error (.userNotFound name)) fun admin =>
      .ok (.verdict admin)

namespace TokenHistory

variable {name : String} {past history : TokenHistory} {x : TokenCall × TokenAnswer}

theorem issuedTo_append (name : String) (history history' : TokenHistory) :
    issuedTo name (history ++ history') = issuedTo name history ++ issuedTo name history' :=
  List.filterMap_append

theorem issuedTo_singleton_of_ne (h : x.1.name ≠ name) : issuedTo name [x] = [] := by
  obtain ⟨c, _ | ⟨_ | _⟩⟩ := x <;> simp_all [issuedTo]

theorem flagsOf_singleton_of_ne (h : x.1.name ≠ name) : flagsOf name [x] = [] := by
  obtain ⟨c, _⟩ := x
  cases c <;> simp_all [flagsOf, TokenCall.name]

theorem getLast?_issuedTo_concat (name : String) (past : TokenHistory)
    (x : TokenCall × TokenAnswer) :
    (issuedTo name (past ++ [x])).getLast? =
      (issuedTo name [x]).getLast?.or (issuedTo name past).getLast? := by
  rw [issuedTo_append, List.getLast?_append]

theorem getLast?_flagsOf_concat (name : String) (past : TokenHistory)
    (x : TokenCall × TokenAnswer) :
    (flagsOf name (past ++ [x])).getLast? =
      (flagsOf name [x]).getLast?.or (flagsOf name past).getLast? := by
  rw [flagsOf, List.filterMap_append, List.getLast?_append]
  rfl

def Expected (past : TokenHistory) : TokenHistory → Prop
  | [] => True
  | x :: history => x.2 = x.1.expected past ∧ Expected (past ++ [x]) history

theorem Expected.answer {front rest : TokenHistory} (h : Expected past (front ++ x :: rest)) :
    x.2 = x.1.expected (past ++ front) := by
  induction front generalizing past with
  | nil =>
    rw [List.append_nil]
    exact h.1
  | cons y front ih =>
    have := ih h.2
    rwa [List.append_assoc] at this

theorem fresh_of_issued {c : TokenCall} {token : String}
    (h : c.expected past = .ok (.issued token)) : c.fresh? = some token := by
  cases c with
  | addUser => simp_all [TokenCall.expected, TokenCall.fresh?]
  | refresh =>
    simp only [TokenCall.expected] at h
    split at h
    · cases h
    · simp_all [TokenCall.fresh?]
  | authorize => simp [TokenCall.expected] at h
  | isAdmin name =>
    cases hlast : (flagsOf name past).getLast? <;> simp [TokenCall.expected, hlast] at h

theorem Expected.issuedTo_sublist (h : Expected past history) (name : String) :
    (issuedTo name history).Sublist ((history.map (·.1)).filterMap (·.fresh?)) := by
  induction history generalizing past with
  | nil => exact List.Sublist.refl _
  | cons x history ih =>
    have ih := ih h.2
    rw [← List.singleton_append, issuedTo_append, List.map_append, List.filterMap_append]
    refine List.Sublist.append ?_ ih
    obtain ⟨c, answer⟩ := x
    have hanswer : answer = c.expected past := h.1
    by_cases hissued : issuedTo name [(c, answer)] = []
    · rw [hissued]
      exact List.nil_sublist _
    · obtain _ | ⟨token | _⟩ := answer
      · exact absurd rfl hissued
      · have hfresh := fresh_of_issued hanswer.symm
        have hname : c.name = name := by
          by_contra hne
          exact hissued (issuedTo_singleton_of_ne hne)
        simp [issuedTo, hname, hfresh]
      · exact absurd rfl hissued

theorem Expected.superseded (h : Expected [] history)
    (hfresh : ((history.map (·.1)).filterMap (·.fresh?)).Nodup) {earlier later rest : TokenHistory}
    {token : String} {answer : TokenAnswer}
    (hhistory : history = earlier ++ later ++ (.authorize name token, answer) :: rest)
    (hissued : token ∈ issuedTo name earlier) (hlater : issuedTo name later ≠ []) :
    answer = .ok (.verdict false) := by
  have hanswer : answer = (TokenCall.authorize name token).expected (earlier ++ later) :=
    (hhistory ▸ h).answer
  -- the last token of a user is none of those before it, since no token comes twice
  have hnodup : (issuedTo name (earlier ++ later)).Nodup := by
    have hall := hfresh.sublist (h.issuedTo_sublist name)
    rw [hhistory, issuedTo_append] at hall
    exact hall.of_append_left
  rw [issuedTo_append, List.nodup_append] at hnodup
  have hlast : (issuedTo name (earlier ++ later)).getLast? ≠ some token := by
    rw [issuedTo_append, List.getLast?_append_of_ne_nil _ hlater]
    intro heq
    exact hnodup.2.2 token hissued token (List.mem_of_getLast? heq) rfl
  rw [hanswer, TokenCall.expected, decide_eq_false hlast]

end TokenHistory

def Credential.rename (f : String → String) (k : Credential) : Credential := ⟨f k.token, k.admin⟩

abbrev Cells := String → Option Credential

namespace TokenCall

/-- What a call is answered by the cell of its user, and what it leaves there. -/
def onCell (old : Option Credential) : TokenCall → TokenAnswer × Option Credential
  | addUser _ admin fresh => (.ok (.issued fresh), some ⟨fresh, admin⟩)
  | refresh name fresh =>
    old.elim (.error (.userNotFound name), none) fun k =>
      (.ok (.issued fresh), some ⟨fresh, k.admin⟩)
  | authorize _ token => (.ok (.verdict (old.any (·.token = token))), old)
  | isAdmin name => (old.elim (.error (.userNotFound name)) fun k => .ok (.verdict k.admin), old)

variable {old : Option Credential} {c : TokenCall}

theorem onCell_error {e : AuthError} (h : (c.onCell old).1 = .error e) :
    (c.onCell old).2 = old := by
  cases c with
  | addUser => cases h
  | refresh =>
    cases old with
    | none => rfl
    | some => cases h
  | authorize => rfl
  | isAdmin => rfl

theorem onCell_rename {f : String → String} (hf : Function.Injective f) (old : Option Credential)
    (c : TokenCall) :
    (c.rename f).onCell (old.map (·.rename f)) =
      ((c.onCell old).1.map (·.rename f), (c.onCell old).2.map (·.rename f)) := by
  cases c with
  | addUser => rfl
  | refresh => cases old <;> rfl
  | authorize name token =>
    cases old with
    | none => rfl
    | some k => simp [rename, onCell, Except.map, TokenReply.rename, Credential.rename, hf.eq_iff]
  | isAdmin => cases old <;> rfl

theorem token_onCell (old : Option Credential) (c : TokenCall) : (c.onCell old).2.map (·.token) =
    (issuedTo c.name [(c, (c.onCell old).1)]).getLast?.or (old.map (·.token)) := by
  cases c with
  | addUser => simp [onCell, issuedTo]
  | refresh => cases old <;> simp [onCell, issuedTo]
  | authorize => rfl
  | isAdmin => cases old <;> rfl

theorem admin_onCell (old : Option Credential) (c : TokenCall) : (c.onCell old).2.map (·.admin) =
    (flagsOf c.name [(c, (c.onCell old).1)]).getLast?.or (old.map (·.admin)) := by
  cases c with
  | addUser => simp [onCell, flagsOf, name]
  | refresh => cases old <;> rfl
  | authorize => rfl
  | isAdmin => rfl

end TokenCall

namespace Cells

def serve (c : TokenCall) : Action Cells AuthError TokenReply := .of fun k =>
  ((c.onCell (k c.name)).1, Function.update k c.name (c.onCell (k c.name)).2)

variable {past : TokenHistory} {k : Cells}

structure Agrees (past : TokenHistory) (k : Cells) : Prop where
  token : ∀ name, (issuedTo name past).getLast? = (k name).map (·.token)
  admin : ∀ name, (flagsOf name past).getLast? = (k name).map (·.admin)

theorem Agrees.expected (h : Agrees past k) (c : TokenCall) :
    (c.onCell (k c.name)).1 = c.expected past := by
  cases c with
  | addUser => rfl
  | refresh name fresh =>
    have hadmin := h.admin name
    have hnone : flagsOf name past = [] ↔ k name = none := by
      rw [← List.getLast?_eq_none_iff, hadmin, Option.map_eq_none_iff]
    cases hk : k name <;> simp [TokenCall.onCell, TokenCall.expected, TokenCall.name, hnone, hk]
  | authorize name token =>
    rw [TokenCall.expected, h.token name]
    cases hk : k name <;> simp [TokenCall.onCell, TokenCall.name, hk]
  | isAdmin name =>
    rw [TokenCall.expected, h.admin name]
    cases hk : k name <;> simp [TokenCall.onCell, TokenCall.name, hk]

theorem Agrees.concat (h : Agrees past k) (c : TokenCall) :
    Agrees (past ++ [(c, (c.onCell (k c.name)).1)])
      (Function.update k c.name (c.onCell (k c.name)).2) where
  token name := by
    rw [TokenHistory.getLast?_issuedTo_concat, h.token]
    by_cases hname : c.name = name
    · subst hname
      rw [Function.update_self, TokenCall.token_onCell]
    · rw [Function.update_of_ne (Ne.symm hname), TokenHistory.issuedTo_singleton_of_ne hname]
      rfl
  admin name := by
    rw [TokenHistory.getLast?_flagsOf_concat, h.admin]
    by_cases hname : c.name = name
    · subst hname
      rw [Function.update_self, TokenCall.admin_onCell]
    · rw [Function.update_of_ne (Ne.symm hname), TokenHistory.flagsOf_singleton_of_ne hname]
      rfl

theorem Agrees.serveAll (h : Agrees past k) (calls : List TokenCall) :
    TokenHistory.Expected past (serveAll serve calls k).1 := by
  induction calls generalizing past k with
  | nil => trivial
  | cons c calls ih => exact ⟨h.expected c, ih (h.concat c)⟩

/-- The calls of one user are answered as if there were no others. -/
theorem filter_serveAll {name : String} (calls : List TokenCall) (k l : Cells)
    (h : k name = l name) :
    (serveAll serve calls k).1.filter (·.1.name = name) =
      (serveAll serve (calls.filter (·.name = name)) l).1 := by
  induction calls generalizing k l with
  | nil => rfl
  | cons c calls ih =>
    have ih := ih ((serve c).on k).2
    simp only [serve, Action.on_of] at ih
    by_cases hname : c.name = name
    · subst hname
      have hsame := ih ((serve c).on l).2
      simp only [serve, Action.on_of, Function.update_self, h, forall_const] at hsame
      simp only [TokenCall.serveAll, serve, Action.on_of, List.filter_cons, decide_true, ↓reduceIte,
        h, hsame]
    · have hother := ih l (by rw [Function.update_of_ne (Ne.symm hname), h])
      simp only [TokenCall.serveAll, serve, Action.on_of, List.filter_cons, hname, decide_false,
        hother]
      rfl

/-- Other tokens make no other difference than to stand where the tokens stood. -/
theorem rename_serveAll {f : String → String} (hf : Function.Injective f) (calls : List TokenCall)
    (k : Cells) :
    (serveAll serve (calls.map (·.rename f)) (Option.map (·.rename f) ∘ k)).1 =
      (serveAll serve calls k).1.rename f := by
  induction calls generalizing k with
  | nil => rfl
  | cons c calls ih =>
    have hleft :=
      Function.comp_update (Option.map (Credential.rename f)) k c.name (c.onCell (k c.name)).2
    simp only [List.map_cons, TokenCall.serveAll, serve, Action.on_of, TokenCall.name_rename,
      Function.comp_apply, TokenCall.onCell_rename hf, ← hleft, ih]
    rfl

end Cells

end SchemaRegistry
