import SchemaRegistry.Proofs.Key
import SchemaRegistry.Proofs.Scan
import SchemaRegistry.Proofs.Share

/-!
Isolation of tenants in a database.  The changes of one tenant are seen by no read of another one
exactly when their names are apart: when they differ, and neither goes on with a separator where the
other one ends.
-/

namespace SchemaRegistry

namespace Database

def attempt (d : Database) (change : Change) : Database :=
  match d.apply change with
  | .ok d => d
  | .error _ => d

def attemptAll (d : Database) (changes : List Change) : Database := changes.foldl attempt d

structure Agrees (d e : Database) (tenant : String) : Prop where
  scan : ∀ start, utf8 (Key.tenantPrefix tenant) <+: utf8 start → d.scan start = e.scan start
  schema : ∀ key, utf8 (Key.tenantPrefix tenant) <+: utf8 key →
    d.schemas.get? key = e.schemas.get? key
  globalLevel : d.globalLevels.get? tenant = e.globalLevels.get? tenant
  subjectLevel : ∀ key, utf8 (Key.tenantPrefix tenant) <+: utf8 key →
    d.subjectLevels.get? key = e.subjectLevels.get? key

variable {d e : Database} {t u : String}

theorem Agrees.refl (d : Database) (t : String) : d.Agrees d t :=
  ⟨fun _ _ => rfl, fun _ _ => rfl, rfl, fun _ _ => rfl⟩

theorem Agrees.trans {f : Database} (h : d.Agrees e t) (h' : e.Agrees f t) : d.Agrees f t where
  scan start hstart := (h.scan start hstart).trans (h'.scan start hstart)
  schema key hkey := (h.schema key hkey).trans (h'.schema key hkey)
  globalLevel := h.globalLevel.trans h'.globalLevel
  subjectLevel key hkey := (h.subjectLevel key hkey).trans (h'.subjectLevel key hkey)

theorem Agrees.sameFor (h : d.Agrees e t) : d.view.SameFor e.view t := by
  have htenant : d.tenant t = e.tenant t := h.scan _ (List.prefix_refl _)
  have hsubject (s : String) : d.subject t s = e.subject t s :=
    h.scan _ (Key.isPrefix_subjectPrefix t s)
  constructor
  · intro text
    simp only [view, htenant]
  · intro id
    simp only [view, htenant]
  · simp only [view, htenant]
  · intro s
    simp only [view, hsubject]
  · intro s v
    simp only [view, h.schema _ (Key.isPrefix_schema t s v)]
  · intro s
    simp only [view, hsubject]
  · intro s text
    simp only [view, hsubject]
  · simp only [view, levelAt, h.globalLevel]
  · intro s
    simp only [view, levelAt, h.subjectLevel _ (Key.isPrefix_subjectLevel t s)]

theorem agrees_attempt (h : Key.Apart t u) (d : Database) {change : Change}
    (hchange : change.tenant? = some u) : (d.attempt change).Agrees d t := by
  -- a key of the one tenant is none of the other
  have hne {key key' : String} (hkey : utf8 (Key.tenantPrefix t) <+: utf8 key)
      (hkey' : utf8 (Key.tenantPrefix u) <+: utf8 key') : key ≠ key' := fun heq =>
    h.not_isPrefix_of_isPrefix hkey' (heq ▸ hkey)
  cases change with
  | schema tenant s id text =>
    cases hchange
    cases hversion : d.nextVersion u s with
    | error e =>
      have hfails : d.attempt (.schema u s id text) = d := by
        simp only [attempt, apply, addSchema, hversion, bind, Except.bind]
      rw [hfails]
      exact .refl d t
    | ok v =>
      have hadds : d.attempt (.schema u s id text) =
          { d with schemas := d.schemas.insert (Key.schema u s v) (Row.encode ⟨id, text⟩) } := by
        simp only [attempt, apply, addSchema, hversion, bind, Except.bind, pure, Except.pure]
      rw [hadds]
      refine ⟨fun start hstart => scan_insert (fun hkey => ?_) d _, fun key hkey => ?_, rfl,
        fun _ _ => rfl⟩
      · exact h.not_isPrefix_of_isPrefix (Key.isPrefix_schema u s v)
          (hstart.trans (startsWith_iff.1 hkey))
      · exact Table.get?_insert_of_ne _ _ (hne hkey (Key.isPrefix_schema u s v))
  | globalLevel tenant level =>
    cases hchange
    exact ⟨fun _ _ => rfl, fun _ _ => rfl, Table.get?_insert_of_ne _ _ h.1, fun _ _ => rfl⟩
  | subjectLevel tenant s level =>
    cases hchange
    refine ⟨fun _ _ => rfl, fun _ _ => rfl, rfl, fun key hkey => ?_⟩
    exact Table.get?_insert_of_ne _ _ (hne hkey (Key.isPrefix_subjectLevel u s))
  | user => cases hchange

theorem agrees_attemptAll (h : Key.Apart t u) (d : Database) {changes : List Change}
    (hchanges : ∀ c ∈ changes, c.tenant? = some u) : (d.attemptAll changes).Agrees d t := by
  induction changes generalizing d with
  | nil => exact .refl d t
  | cons change changes ih =>
    obtain ⟨hfirst, hrest⟩ := List.forall_mem_cons.1 hchanges
    exact (ih (d.attempt change) hrest).trans (agrees_attempt h d hfirst)

theorem subjects_attempt_ne {s : String}
    (hkey : utf8 (Key.tenantPrefix t) <+: utf8 (Key.schema u s 1)) (id : Int) (text : String) :
    ((∅ : Database).attempt (.schema u s id text)).view.subjects t ≠ .ok [] := by
  have hscan : ((∅ : Database).attempt (.schema u s id text)).tenant t =
      [(Key.schema u s 1, Row.encode ⟨id, text⟩)].mapM fun e => decodeRow e.1 e.2 := by
    rw [tenant, scan_eq]
    change List.mapM _ ([(Key.schema u s 1, Row.encode ⟨id, text⟩)].filter _) = _
    simp only [List.filter_cons, startsWith_iff.2 hkey, List.filter_nil, ↓reduceIte]
  simp only [view, hscan, List.mapM_cons, List.mapM_nil, bind, Except.bind]
  cases decodeRow (Key.schema u s 1) (Row.encode ⟨id, text⟩) with
  | error e => exact nofun
  | ok x => exact nofun

/-- What is written for one tenant, after anything at all, is never seen by another one: this holds
of two tenants exactly when their names are apart. -/
theorem isolated_iff (t u : String) :
    (∀ history changes, (∀ c ∈ changes, c.tenant? = some u) →
      (attemptAll (attemptAll ∅ history) changes).view.SameFor (attemptAll ∅ history).view t) ↔
    Key.Apart t u := by
  constructor
  · intro h
    have hunseen (s : String) : ¬ utf8 (Key.tenantPrefix t) <+: utf8 (Key.schema u s 1) :=
      fun hkey =>
        subjects_attempt_ne hkey 0 "" (h [] [.schema u s 0 ""] (by simp [Change.tenant?])).subjects
    refine ⟨fun heq => hunseen "" ?_, fun w hw => hunseen "" ?_, fun w hw => hunseen w ?_⟩
    · subst heq
      exact Key.isPrefix_schema t "" 1
    · subst hw
      rw [Key.schema, Key.subjectPrefix]
      simp only [String.append_assoc]
      exact Key.isPrefix_append ..
    · subst hw
      -- the longer tenant is the shorter one with a subject
      rw [Key.schema, utf8_append]
      exact List.prefix_append ..
  · intro h history changes hchanges
    exact (agrees_attemptAll h _ hchanges).sameFor

/-- Tenants with different names need not be apart.  A tenant whose name is that of another with a
subject behind it reads the schemas of that subject, and what it stores itself spoils the other's
listings. -/
theorem not_isolated_nested :
    let outer := "acme"
    let inner := "acme\x00orders"
    inner ≠ outer ∧
    (∅ : Database).view.textOfId? inner 1 = .ok none ∧
    (attempt ∅ (.schema outer "orders" 1 "x")).view.textOfId? inner 1 = .ok (some "x") ∧
    (∅ : Database).view.subjects outer = .ok [] ∧
    (attempt ∅ (.schema inner "bills" 1 "x")).view.subjects outer =
      .error (.badKey (Key.schema inner "bills" 1)) := by
  decide +kernel

end Database

end SchemaRegistry
