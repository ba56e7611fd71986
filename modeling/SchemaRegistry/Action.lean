/-!
Steps that may change a state and may fail.  What a step changed before it failed stays changed.
-/

namespace SchemaRegistry

abbrev Action (σ ε α : Type) := ExceptT ε (StateM σ) α

namespace Action

variable {σ τ ε ε' α β : Type}

def on (x : Action σ ε α) (s : σ) : Except ε α × σ := x.run.run s

def of (f : σ → Except ε α × σ) : Action σ ε α := ExceptT.mk f

def ask (f : σ → Except ε α) : Action σ ε α := of fun s => (f s, s)

def change (f : σ → σ) : Action σ ε Unit := of fun s => (.ok (), f s)

def mapError (f : ε → ε') (x : Action σ ε α) : Action σ ε' α := of fun s =>
  match x.on s with
  | (.ok a, s) => (.ok a, s)
  | (.error e, s) => (.error (f e), s)

def within (get : τ → σ) (set : σ → τ → τ) (x : Action σ ε α) : Action τ ε α := of fun t =>
  let (r, s) := x.on (get t)
  (r, set s t)

@[simp] theorem on_of (f : σ → Except ε α × σ) (s : σ) : (of f).on s = f s := rfl

@[simp] theorem on_ask (f : σ → Except ε α) (s : σ) : (ask f).on s = (f s, s) := rfl

@[simp] theorem on_change (f : σ → σ) (s : σ) :
    (change f : Action σ ε Unit).on s = (.ok (), f s) := rfl

@[simp] theorem on_pure (a : α) (s : σ) : (pure a : Action σ ε α).on s = (.ok a, s) := rfl

@[simp] theorem on_throw (e : ε) (s : σ) : (throw e : Action σ ε α).on s = (.error e, s) := rfl

theorem on_bind (x : Action σ ε α) (f : α → Action σ ε β) (s : σ) :
    (x >>= f).on s =
      match x.on s with
      | (.ok a, s) => (f a).on s
      | (.error e, s) => (.error e, s) := by
  simp only [on, bind, ExceptT.bind, ExceptT.run, ExceptT.mk, StateT.run, StateT.bind]
  rcases x s with ⟨r, t⟩
  cases r <;> rfl

theorem on_mapError (f : ε → ε') (x : Action σ ε α) (s : σ) :
    (x.mapError f).on s = ((x.on s).1.mapError f, (x.on s).2) := by
  simp only [mapError, on_of]
  rcases x.on s with ⟨r, t⟩
  cases r <;> rfl

theorem on_bind_eq_ok {x : Action σ ε α} {f : α → Action σ ε β} {s s' : σ} {b : β} :
    (x >>= f).on s = (.ok b, s') ↔ ∃ a t, x.on s = (.ok a, t) ∧ (f a).on t = (.ok b, s') := by
  rw [on_bind]
  rcases x.on s with ⟨e | a, t⟩
  · simp
  · constructor
    · exact fun h => ⟨a, t, rfl, h⟩
    · rintro ⟨_, _, ⟨⟩, h⟩
      exact h

theorem on_bind_pure_eq_error {x : Action σ ε α} {f : α → β} {s s' : σ} {e : ε} :
    (x >>= fun a => pure (f a)).on s = (.error e, s') ↔ x.on s = (.error e, s') := by
  rw [on_bind]
  rcases x.on s with ⟨e' | a, t⟩ <;> simp

@[simp] theorem on_within (get : τ → σ) (set : σ → τ → τ) (x : Action σ ε α) (t : τ) :
    (x.within get set).on t = ((x.on (get t)).1, set (x.on (get t)).2 t) := rfl

end Action

end SchemaRegistry
