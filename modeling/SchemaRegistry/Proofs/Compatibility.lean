import SchemaRegistry.Compatibility
import SchemaRegistry.Proofs.Table

/-!
Laws of the rules for records.  Both ways at once is one way and the other, and the other way is the
same with the sides exchanged; a document may follow itself; and records are their fields by name,
in whatever order they come.  What is no record is held to its type only where it has a member of
that name.
-/

namespace SchemaRegistry

namespace Compatibility

open Json

variable {c : Checker} {v w : Value} {t new old : Table Bool} {fields fields' : List Value}

theorem unreadable?_self (t : Table Bool) : unreadable? t t = none := by
  rw [unreadable?, Option.map_eq_none_iff, List.find?_eq_none]
  intro f hf
  have hget : t.get? f.1 = some f.2 := (t.mem_entries_iff f).1 hf
  simp [Table.contains, hget]

theorem isOk_checkFields : (checkFields c new old).isOk =
    ((!c.backward || (unreadable? new old).isNone) &&
      (!c.forward || (unreadable? old new).isNone)) := by
  rw [checkFields]
  cases c.backward <;> cases c.forward <;> cases unreadable? new old <;>
    cases unreadable? old new <;> rfl

theorem sameType_self (v : Value) : sameType v v = true := by
  rw [sameType]
  cases v.member? "type" with
  | none => rfl
  | some x => exact Value.same_self x

theorem sameType_comm (v w : Value) : sameType v w = sameType w v := by
  simp only [sameType]
  cases v.member? "type" <;> cases w.member? "type" <;> simp only [Value.same_comm]

theorem checkValues_records (hv : recordFields? v = some new) (hw : recordFields? w = some old) :
    checkValues c v w = checkFields c new old := by
  simp only [checkValues, hv, hw]

theorem checkValues_types (h : ¬ ((recordFields? v).isSome ∧ (recordFields? w).isSome)) :
    checkValues c v w = if sameType v w then .ok () else .error .typeChanged := by
  rw [checkValues]
  split
  · next hv hw => exact absurd ⟨by rw [hv]; rfl, by rw [hw]; rfl⟩ h
  · rfl

theorem isOk_checkValues_both (v w : Value) : (checkValues .both v w).isOk =
    ((checkValues .backwardOnly v w).isOk && (checkValues .forwardOnly v w).isOk) := by
  by_cases h : (recordFields? v).isSome ∧ (recordFields? w).isSome
  · obtain ⟨⟨new, hnew⟩, old, hold⟩ := h.imp Option.isSome_iff_exists.1 Option.isSome_iff_exists.1
    simp [checkValues_records hnew hold, isOk_checkFields, Checker.both, Checker.backwardOnly,
      Checker.forwardOnly]
  · rw [checkValues_types h, checkValues_types h, checkValues_types h, Bool.and_self]

theorem isOk_checkValues_swap (v w : Value) :
    (checkValues .backwardOnly v w).isOk = (checkValues .forwardOnly w v).isOk := by
  by_cases h : (recordFields? v).isSome ∧ (recordFields? w).isSome
  · obtain ⟨⟨new, hnew⟩, old, hold⟩ := h.imp Option.isSome_iff_exists.1 Option.isSome_iff_exists.1
    simp [checkValues_records hnew hold, checkValues_records hold hnew, isOk_checkFields,
      Checker.backwardOnly, Checker.forwardOnly]
  · rw [checkValues_types h, checkValues_types (h ∘ And.symm), sameType_comm]

theorem checkValues_self (c : Checker) (v : Value) : checkValues c v v = .ok () := by
  by_cases h : (recordFields? v).isSome ∧ (recordFields? v).isSome
  · obtain ⟨fields, hfields⟩ := Option.isSome_iff_exists.1 h.1
    simp only [checkValues_records hfields hfields, checkFields, unreadable?_self, ite_self]
  · rw [checkValues_types h, sameType_self, if_pos rfl]

def fieldNames (fields : List Value) : List String := (fields.filterMap fieldOf?).map (·.1)

def withFields (v : Value) (fields : List Value) : Value :=
  match v with
  | .object members =>
    .object (members.map fun m => if m.1 = "fields" then (m.1, .array fields) else m)
  | v => v

theorem lookup_withFields (members : List (String × Value)) (fields : List Value) (name : String) :
    (members.map fun m => if m.1 = "fields" then (m.1, .array fields) else m).lookup name =
      if name = "fields" then (members.lookup name).map fun _ => .array fields
      else members.lookup name := by
  induction members with
  | nil => simp
  | cons m members ih =>
    have hkey : (if m.1 = "fields" then (m.1, .array fields) else m).1 = m.1 := by split <;> rfl
    rw [List.map_cons, Table.lookup_cons_ite, hkey, Table.lookup_cons_ite, ih]
    by_cases hname : name = m.1
    · subst hname
      by_cases hfields : m.1 = "fields" <;> simp [hfields]
    · simp [hname]

theorem member?_withFields (v : Value) (fields : List Value) (name : String) :
    (withFields v fields).member? name =
      if name = "fields" then (v.member? name).map fun _ => .array fields else v.member? name := by
  cases v with
  | object members => exact lookup_withFields members fields name
  | _ => simp [withFields, Value.member?]

theorem sameType_withFields (v w : Value) (fields : List Value) :
    sameType (withFields v fields) w = sameType v w := by
  simp [sameType, member?_withFields]

/-- As long as no two of them have the same name, fields count by name and not by place. -/
theorem recordFields?_withFields (hfields : v.member? "fields" = some (.array fields))
    (hnames : (fieldNames fields).Nodup) (h : fields.Perm fields') :
    recordFields? (withFields v fields') = recordFields? v := by
  have hmember : (withFields v fields').member? "fields" = some (.array fields') := by
    rw [member?_withFields, hfields]
    rfl
  have htable : Table.ofList (fields.filterMap fieldOf?) =
      Table.ofList (fields'.filterMap fieldOf?) :=
    Table.ofList_perm hnames (h.filterMap _)
  simp [recordFields?, hmember, hfields, Value.items?, htable]

theorem checkValues_withFields (hfields : v.member? "fields" = some (.array fields))
    (hnames : (fieldNames fields).Nodup) (h : fields.Perm fields') (c : Checker) (w : Value) :
    checkValues c (withFields v fields') w = checkValues c v w ∧
      checkValues c w (withFields v fields') = checkValues c w v := by
  simp only [checkValues, recordFields?_withFields hfields hnames h, sameType_comm w,
    sameType_withFields, and_self]

end Compatibility

open Compatibility Json

variable {candidate existing : String} {v w : Value}

namespace Checker

variable {c : Checker}

theorem validate_parsed (hv : parse (utf8 candidate) = .ok v) (hw : parse (utf8 existing) = .ok w) :
    c.validate candidate existing = checkValues c v w := by
  simp only [validate, parseSide, hv, hw]
  rfl

theorem validate_unreadable {cause : Json.Error} (h : parse (utf8 candidate) = .error cause) :
    c.validate candidate existing = .error (.unreadable .candidate cause) := by
  simp only [validate, parseSide, h]
  rfl

theorem validate_unreadable_existing {cause : Json.Error} (hv : parse (utf8 candidate) = .ok v)
    (h : parse (utf8 existing) = .error cause) :
    c.validate candidate existing = .error (.unreadable .existing cause) := by
  simp only [validate, parseSide, hv, h]
  rfl

theorem isOk_validate_both (candidate existing : String) :
    (Checker.both.validate candidate existing).isOk =
    ((Checker.backwardOnly.validate candidate existing).isOk &&
      (Checker.forwardOnly.validate candidate existing).isOk) := by
  cases hv : parse (utf8 candidate) with
  | error e => simp only [validate_unreadable hv, Except.isOk, Except.toBool, Bool.and_self]
  | ok v =>
    cases hw : parse (utf8 existing) with
    | error e =>
      simp only [validate_unreadable_existing hv hw, Except.isOk, Except.toBool, Bool.and_self]
    | ok w => simp only [validate_parsed hv hw, isOk_checkValues_both]

theorem isOk_validate_swap (candidate existing : String) :
    (Checker.backwardOnly.validate candidate existing).isOk =
      (Checker.forwardOnly.validate existing candidate).isOk := by
  cases hv : parse (utf8 candidate) with
  | error e =>
    cases hw : parse (utf8 existing) with
    | error e' => rw [validate_unreadable hv, validate_unreadable hw]; rfl
    | ok w => rw [validate_unreadable hv, validate_unreadable_existing hw hv]; rfl
  | ok v =>
    cases hw : parse (utf8 existing) with
    | error e => rw [validate_unreadable_existing hv hw, validate_unreadable hw]; rfl
    | ok w => rw [validate_parsed hv hw, validate_parsed hw hv, isOk_checkValues_swap]

theorem validate_self (hv : parse (utf8 candidate) = .ok v) :
    c.validate candidate candidate = .ok () := by
  rw [validate_parsed hv hv, checkValues_self]

theorem validate_reordered {reordered : String} {fields fields' : List Value}
    (hv : parse (utf8 candidate) = .ok v) (hfields : v.member? "fields" = some (.array fields))
    (hnames : (fieldNames fields).Nodup) (hperm : fields.Perm fields')
    (hreordered : parse (utf8 reordered) = .ok (withFields v fields')) (existing : String) :
    c.validate reordered existing = c.validate candidate existing ∧
      c.validate existing reordered = c.validate existing candidate := by
  cases hw : parse (utf8 existing) with
  | error e =>
    rw [validate_unreadable_existing hreordered hw, validate_unreadable_existing hv hw,
      validate_unreadable hw, validate_unreadable hw]
    exact ⟨rfl, rfl⟩
  | ok w =>
    rw [validate_parsed hreordered hw, validate_parsed hv hw, validate_parsed hw hreordered,
      validate_parsed hw hv]
    exact checkValues_withFields hfields hnames hperm c w

end Checker

namespace Rules

theorem isCompatible_congr {a a' b b' : String}
    (h : ∀ c : Checker, c.validate a b = c.validate a' b') (r : Rules) (level : Level) :
    r.isCompatible a b level = r.isCompatible a' b' level := by
  simp only [isCompatible, h]

theorem isCompatible_self (hv : parse (utf8 candidate) = .ok v) (level : Level) :
    recordFields.isCompatible candidate candidate level = true := by
  have haccepted (c : Checker) : (c.validate candidate candidate).isOk = true := by
    rw [Checker.validate_self hv]
    rfl
  cases level with
  | none => rfl
  | backward => exact haccepted .backwardOnly
  | forward => exact haccepted .forwardOnly
  | full => exact haccepted .both

/-- The laws of the rules, for all texts, documents or not. -/
theorem isCompatible_laws (candidate existing : String) :
    recordFields.isCompatible candidate existing .full =
      (recordFields.isCompatible candidate existing .backward &&
        recordFields.isCompatible candidate existing .forward) ∧
    recordFields.isCompatible candidate existing .backward =
      recordFields.isCompatible existing candidate .forward ∧
    (∀ v level, parse (utf8 candidate) = .ok v →
      recordFields.isCompatible candidate candidate level = true) ∧
    ∀ v fields fields' reordered level, parse (utf8 candidate) = .ok v →
      v.member? "fields" = some (.array fields) → (fieldNames fields).Nodup → fields.Perm fields' →
      parse (utf8 reordered) = .ok (withFields v fields') →
      recordFields.isCompatible reordered existing level =
        recordFields.isCompatible candidate existing level ∧
      recordFields.isCompatible existing reordered level =
        recordFields.isCompatible existing candidate level := by
  refine ⟨Checker.isOk_validate_both candidate existing,
    Checker.isOk_validate_swap candidate existing, fun v level hv => isCompatible_self hv level, ?_⟩
  intro v fields fields' reordered level hv hfields hnames hperm hreordered
  have hsame (c : Checker) := c.validate_reordered hv hfields hnames hperm hreordered existing
  exact ⟨isCompatible_congr (fun c => (hsame c).1) _ level,
    isCompatible_congr (fun c => (hsame c).2) _ level⟩

theorem isCompatible_laws_exchanged :
    let record :=
      "\x7b\"fields\":[\x7b\"name\":\"a\"\x7d,\x7b\"default\":null,\"name\":\"b\"\x7d]\x7d"
    let exchanged :=
      "\x7b\"fields\":[\x7b\"name\":\"b\",\"default\":null\x7d,\x7b\"name\":\"a\"\x7d]\x7d"
    let older := "\x7b\"fields\":[\x7b\"name\":\"c\"\x7d]\x7d"
    ∃ v a b, parse (utf8 record) = .ok v ∧ v.member? "fields" = some (.array [a, b]) ∧
      (fieldNames [a, b]).Nodup ∧ parse (utf8 exchanged) = .ok (withFields v [b, a]) ∧
      recordFields.isCompatible record record .full = true ∧
      recordFields.isCompatible exchanged older .backward =
        recordFields.isCompatible record older .backward ∧
      recordFields.isCompatible older exchanged .backward =
        recordFields.isCompatible older record .backward := by
  intro record exchanged older
  obtain ⟨v, a, b, hv, hfields, hnames, hexchanged⟩ : ∃ v a b, parse (utf8 record) = .ok v ∧
      v.member? "fields" = some (.array [a, b]) ∧ (fieldNames [a, b]).Nodup ∧
      parse (utf8 exchanged) = .ok (withFields v [b, a]) :=
    ⟨_, _, _, rfl, rfl, by decide, rfl⟩
  obtain ⟨-, -, hself, hreordered⟩ := isCompatible_laws record older
  exact ⟨v, a, b, hv, hfields, hnames, hexchanged, hself v .full hv,
    hreordered v _ _ exchanged .backward hv hfields hnames (.swap b a []) hexchanged⟩

end Rules

namespace Compatibility

def agree : Option Value → Option Value → Bool
  | none, none => true
  | some x, some y => x.same y
  | _, _ => false

def isObject : Value → Bool
  | .object _ => true
  | _ => false

/-- The type that a document denotes: an object names it in a member, if at all, and what is no
object is a type itself. -/
def denoted? : Value → Option Value
  | .object members => members.lookup "type"
  | v => some v

theorem sameType_eq_agree (v w : Value) :
    sameType v w = agree (v.member? "type") (w.member? "type") := by
  rw [sameType]
  cases v.member? "type" <;> cases w.member? "type" <;> rfl

theorem denoted?_of_isObject (h : isObject v) : denoted? v = v.member? "type" := by
  cases v with
  | object members => rfl
  | _ => cases h

theorem member?_of_not_isObject (h : isObject v = false) (name : String) :
    v.member? name = none := by
  cases v with
  | object members => cases h
  | _ => rfl

theorem agree_none_left (x? : Option Value) : agree none x? = x?.isNone := by cases x? <;> rfl

theorem agree_none_right (x? : Option Value) : agree x? none = x?.isNone := by cases x? <;> rfl

end Compatibility

namespace Checker

/-- Objects that are not both records are held to the type that they denote.  A document that is no
object denotes itself, but is held to nothing: it may follow, and be followed by, whatever has no
member for a type, and nothing that has one. -/
theorem validate_types (c : Checker) (hv : parse (utf8 candidate) = .ok v)
    (hw : parse (utf8 existing) = .ok w)
    (h : ¬ ((recordFields? v).isSome ∧ (recordFields? w).isSome)) :
    (c.validate candidate existing = .ok () ∨ c.validate candidate existing = .error .typeChanged) ∧
    (isObject v ∧ isObject w →
      (c.validate candidate existing = .ok () ↔ agree (denoted? v) (denoted? w))) ∧
    (¬ (isObject v ∧ isObject w) →
      (c.validate candidate existing = .ok () ↔
        v.member? "type" = none ∧ w.member? "type" = none)) := by
  have haccepted : c.validate candidate existing = .ok () ↔ sameType v w := by
    rw [validate_parsed hv hw, checkValues_types h]
    split <;> simp [*]
  rw [haccepted, sameType_eq_agree]
  refine ⟨?_, fun hobjects => ?_, fun hbare => ?_⟩
  · rw [validate_parsed hv hw, checkValues_types h, sameType_eq_agree]
    split
    · next hagree => exact .inl hagree
    · exact .inr rfl
  · rw [denoted?_of_isObject hobjects.1, denoted?_of_isObject hobjects.2]
  · rw [Decidable.not_and_iff_or_not, Bool.not_eq_true, Bool.not_eq_true] at hbare
    rcases hbare with hbare | hbare
    · simp [member?_of_not_isObject hbare, agree_none_left]
    · simp [member?_of_not_isObject hbare, agree_none_right]

theorem validate_types_written :
    let written := "\x7b\"type\":\"long\"\x7d"
    let record := "\x7b\"type\":\"record\",\"fields\":[]\x7d"
    ∃ v w, parse (utf8 written) = .ok v ∧ parse (utf8 record) = .ok w ∧
      ¬ ((recordFields? v).isSome ∧ (recordFields? w).isSome) ∧ isObject v ∧ isObject w ∧
      agree (denoted? v) (denoted? w) = false ∧
      Checker.both.validate written record = .error .typeChanged := by
  intro written record
  obtain ⟨v, w, hv, hw, hrecords, hobjects, hdenoted⟩ : ∃ v w, parse (utf8 written) = .ok v ∧
      parse (utf8 record) = .ok w ∧ ¬ ((recordFields? v).isSome ∧ (recordFields? w).isSome) ∧
      (isObject v ∧ isObject w) ∧ agree (denoted? v) (denoted? w) = false :=
    ⟨_, _, rfl, rfl, by decide, by decide, by decide⟩
  obtain ⟨hor, hiff, -⟩ := Checker.both.validate_types hv hw hrecords
  refine ⟨v, w, hv, hw, hrecords, hobjects.1, hobjects.2, hdenoted, hor.resolve_left fun hok => ?_⟩
  exact absurd ((hiff hobjects).1 hok) (by simp [hdenoted])

/-- Types written alone are not told apart, in whatever direction data must be read. -/
theorem validate_bare_types :
    ∃ v w, parse (utf8 "\"long\"") = .ok v ∧ parse (utf8 "\"string\"") = .ok w ∧
      recordFields? v = none ∧ recordFields? w = none ∧ agree (denoted? v) (denoted? w) = false ∧
      Checker.backwardOnly.validate "\"long\"" "\"string\"" = .ok () ∧
      Checker.forwardOnly.validate "\"long\"" "\"string\"" = .ok () ∧
      Checker.both.validate "\"long\"" "\"string\"" = .ok () :=
  ⟨_, _, rfl, rfl, rfl, rfl, by decide, rfl, rfl, rfl⟩

end Checker

end SchemaRegistry
