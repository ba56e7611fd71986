import SchemaRegistry.Proofs.Listing
import SchemaRegistry.Proofs.LogWriter
import SchemaRegistry.Proofs.View

/-!
The share that a tenant has of a cache.  It depends on the changes of the tenant's own stream only,
and it is all that the tenant's reads depend on.
-/

namespace SchemaRegistry

namespace Change

/-- The tenant whose state a change is about.  Users are of no tenant. -/
def tenant? : Change → Option String
  | schema tenant _ _ _ => some tenant
  | globalLevel tenant _ => some tenant
  | subjectLevel tenant _ _ => some tenant
  | user _ => none

theorem stream_of_tenant? {change : Change} {tenant : String} (h : change.tenant? = some tenant) :
    change.record.stream = tenant := by
  cases change with
  | schema => exact Option.some.inj h
  | globalLevel => exact Option.some.inj h
  | subjectLevel => exact Option.some.inj h
  | user => cases h

theorem on_of_forall {stream : String} {changes : List Change}
    (h : ∀ change ∈ changes, change.record.stream = stream) (s : String) :
    on s changes = if s = stream then changes else [] := by
  split
  · next hs => exact List.filter_eq_self.2 fun change hchange => by simp [h change hchange, hs]
  · next hs =>
    exact List.filter_eq_nil_iff.2 fun change hchange => by
      simpa [h change hchange] using Ne.symm hs

theorem stream_of_mem_on {stream : String} {changes : List Change} {change : Change}
    (h : change ∈ on stream changes) : change.record.stream = stream := by
  simpa using (List.mem_filter.1 h).2

theorem on_append (stream : String) (cs ds : List Change) :
    on stream (cs ++ ds) = on stream cs ++ on stream ds :=
  List.filter_append ..

end Change

namespace Cache

structure SameShare (c e : Cache) (tenant : String) : Prop where
  schemas : c.tenant tenant = e.tenant tenant
  globalLevel : c.globalLevels.get? tenant = e.globalLevels.get? tenant
  levels : c.levels tenant = e.levels tenant

variable {c e f : Cache} {tenant : String}

theorem SameShare.refl (c : Cache) (tenant : String) : c.SameShare c tenant := ⟨rfl, rfl, rfl⟩

theorem SameShare.symm (h : c.SameShare e tenant) : e.SameShare c tenant :=
  ⟨h.schemas.symm, h.globalLevel.symm, h.levels.symm⟩

theorem SameShare.trans (h : c.SameShare e tenant) (h' : e.SameShare f tenant) :
    c.SameShare f tenant :=
  ⟨h.schemas.trans h'.schemas, h.globalLevel.trans h'.globalLevel, h.levels.trans h'.levels⟩

theorem SameShare.subject (h : c.SameShare e tenant) (subject : String) :
    c.subject tenant subject = e.subject tenant subject := by
  rw [Cache.subject, h.schemas, Cache.subject]

theorem SameShare.sameFor (h : c.SameShare e tenant) : c.view.SameFor e.view tenant := by
  have hall : c.all tenant = e.all tenant := by rw [all, h.schemas, all]
  constructor
  · intro text
    simp only [view, hall]
  · intro id
    simp only [view, hall]
  · simp only [view, h.schemas]
  · intro subject
    simp only [view, h.subject]
  · intro subject version
    simp only [view, h.subject]
  · intro subject
    simp only [view, h.subject]
  · intro subject text
    simp only [view, h.subject]
  · simp only [view, h.globalLevel]
  · intro subject
    simp only [view, h.levels]

theorem SameShare.apply (h : c.SameShare e tenant) (change : Change) :
    (c.apply change).SameShare (e.apply change) tenant := by
  cases change with
  | schema t s id text =>
    refine ⟨?_, h.globalLevel, h.levels⟩
    simp only [Cache.apply, tenant_addSchema, nextVersion]
    split
    · next ht => rw [← ht, h.schemas, h.subject]
    · exact h.schemas
  | globalLevel t level =>
    refine ⟨h.schemas, ?_, h.levels⟩
    simp only [Cache.apply, setGlobalLevel, Table.get?_insert, h.globalLevel]
  | subjectLevel t s level =>
    refine ⟨h.schemas, h.globalLevel, ?_⟩
    have hlevels := h.levels
    simp only [Cache.apply, setSubjectLevel, Cache.levels, Table.get?_insert] at hlevels ⊢
    split
    · next ht => rw [← ht, hlevels]
    · exact hlevels
  | user => exact ⟨h.schemas, h.globalLevel, h.levels⟩

theorem sameShare_apply (c : Cache) {change : Change} (h : change.tenant? ≠ some tenant) :
    (c.apply change).SameShare c tenant := by
  have hne {t : String} (ht : some t ≠ some tenant) : tenant ≠ t := fun heq => ht (heq ▸ rfl)
  cases change with
  | schema t s id text =>
    refine ⟨?_, rfl, rfl⟩
    rw [Cache.apply, tenant_addSchema, if_neg (hne h)]
  | globalLevel t level => exact ⟨rfl, Table.get?_insert_of_ne _ _ (hne h), rfl⟩
  | subjectLevel t s level =>
    refine ⟨rfl, rfl, ?_⟩
    simp only [Cache.apply, setSubjectLevel, Cache.levels, Table.get?_insert_of_ne _ _ (hne h)]
  | user => exact ⟨rfl, rfl, rfl⟩

theorem SameShare.foldl (h : c.SameShare e tenant) (changes : List Change) :
    (changes.foldl Cache.apply c).SameShare (changes.foldl Cache.apply e) tenant := by
  induction changes generalizing c e with
  | nil => exact h
  | cons change changes ih => exact ih (h.apply change)

theorem sameShare_foldl (c : Cache) {changes : List Change}
    (h : ∀ change ∈ changes, change.tenant? ≠ some tenant) :
    (changes.foldl Cache.apply c).SameShare c tenant := by
  induction changes generalizing c with
  | nil => exact .refl c tenant
  | cons change changes ih =>
    obtain ⟨hfirst, hrest⟩ := List.forall_mem_cons.1 h
    exact (ih (c.apply change) hrest).trans (c.sameShare_apply hfirst)

/-- A tenant's share comes from the tenant's stream. -/
theorem sameShare_on (tenant : String) (changes : List Change) :
    (of changes).SameShare (of (Change.on tenant changes)) tenant := by
  have hfold {c e : Cache} (h : c.SameShare e tenant) :
      (changes.foldl Cache.apply c).SameShare ((Change.on tenant changes).foldl Cache.apply e)
        tenant := by
    induction changes generalizing c e with
    | nil => exact h
    | cons change changes ih =>
      rw [Change.on, List.filter_cons]
      split
      · exact ih (h.apply change)
      · next hother =>
        refine ih ((c.sameShare_apply fun ht => hother ?_).trans h)
        simpa using Change.stream_of_tenant? ht
  exact hfold (.refl ∅ tenant)

end Cache

end SchemaRegistry
