import SchemaRegistry.Store.View

namespace SchemaRegistry

instance decidableEqExcept {ε α : Type} [DecidableEq ε] [DecidableEq α] : DecidableEq (Except ε α)
  | .ok a, .ok b => decidable_of_iff (a = b) ⟨congrArg _, Except.ok.inj⟩
  | .error e, .error f => decidable_of_iff (e = f) ⟨congrArg _, Except.error.inj⟩
  | .ok _, .error _ => isFalse nofun
  | .error _, .ok _ => isFalse nofun

instance decidableExistsOk {ε α : Type} (x : Except ε α) (p : α → Prop) [DecidablePred p] :
    Decidable (∃ a, x = .ok a ∧ p a) :=
  match x with
  | .ok a => decidable_of_iff (p a) ⟨fun h => ⟨a, rfl, h⟩, fun ⟨_, rfl, h⟩ => h⟩
  | .error _ => isFalse nofun

namespace View

/-- Every read for a tenant has the same answer, or the same failure, in both views. -/
structure SameFor (v w : View) (tenant : String) : Prop where
  id : ∀ text, v.id? tenant text = w.id? tenant text
  textOfId : ∀ id, v.textOfId? tenant id = w.textOfId? tenant id
  subjects : v.subjects tenant = w.subjects tenant
  versions : ∀ subject, v.versions? tenant subject = w.versions? tenant subject
  text : ∀ subject version, v.text? tenant subject version = w.text? tenant subject version
  latest : ∀ subject, v.latest? tenant subject = w.latest? tenant subject
  find : ∀ subject text, v.find? tenant subject text = w.find? tenant subject text
  globalLevel : v.globalLevel? tenant = w.globalLevel? tenant
  subjectLevel : ∀ subject, v.subjectLevel? tenant subject = w.subjectLevel? tenant subject

theorem SameFor.symm {v w : View} {tenant : String} (h : v.SameFor w tenant) :
    w.SameFor v tenant where
  id text := (h.id text).symm
  textOfId id := (h.textOfId id).symm
  subjects := h.subjects.symm
  versions subject := (h.versions subject).symm
  text subject version := (h.text subject version).symm
  latest subject := (h.latest subject).symm
  find subject text := (h.find subject text).symm
  globalLevel := h.globalLevel.symm
  subjectLevel subject := (h.subjectLevel subject).symm

theorem SameFor.trans {v w x : View} {tenant : String} (h : v.SameFor w tenant)
    (h' : w.SameFor x tenant) : v.SameFor x tenant where
  id text := (h.id text).trans (h'.id text)
  textOfId id := (h.textOfId id).trans (h'.textOfId id)
  subjects := h.subjects.trans h'.subjects
  versions subject := (h.versions subject).trans (h'.versions subject)
  text subject version := (h.text subject version).trans (h'.text subject version)
  latest subject := (h.latest subject).trans (h'.latest subject)
  find subject text := (h.find subject text).trans (h'.find subject text)
  globalLevel := h.globalLevel.trans h'.globalLevel
  subjectLevel subject := (h.subjectLevel subject).trans (h'.subjectLevel subject)

end View

end SchemaRegistry
