import SchemaRegistry.Proofs.JsonObject
import SchemaRegistry.Proofs.Record

/-!
Log entries and the records they hold.  An entry is read as a record exactly when its key is the
record's tag and its value a JSON object of strings that carries every field of the record; nothing
stands in for a field that is not there.  What is written for a record is such an entry.
-/

namespace SchemaRegistry.Record

/-- A field that members carry: of several with one name, the last. -/
def Carries (ms : List (String × String)) (f : String × String) : Prop :=
  ∃ before after, ms = before ++ f :: after ∧ ∀ m ∈ after, m.1 ≠ f.1

/-- The fields that make a record.  The client of a user is written and not read. -/
def own : Record → List (String × String)
  | .createUser name token admin => [("admin", flag admin), ("name", name), ("token", token)]
  | r => r.fields

variable {t : Tag} {ms : List (String × String)} {name text : String} {level : Level} {admin : Bool}
  {r : Record}

theorem field_eq_ok : field t ms name = .ok text ↔ Carries ms (name, text) := by
  have hlookup : field t ms name = .ok text ↔ ms.reverse.lookup name = some text := by
    rw [field]
    cases ms.reverse.lookup name <;> simp
  rw [hlookup, List.lookup_eq_some_iff]
  constructor
  · rintro ⟨after, before, hms, hafter⟩
    refine ⟨before.reverse, after.reverse, ?_, fun m hm => ?_⟩
    · simpa using congrArg List.reverse hms
    · exact (bne_iff_ne.1 (hafter m (List.mem_reverse.1 hm))).symm
  · rintro ⟨before, after, rfl, hafter⟩
    refine ⟨after.reverse, before.reverse, by simp, fun m hm => ?_⟩
    exact bne_iff_ne.2 (hafter m (List.mem_reverse.1 hm)).symm

theorem flag?_eq_some {s : String} {b : Bool} : flag? s = some b ↔ s = flag b := by
  constructor
  · intro h
    rw [flag?] at h
    split at h
    · next hs =>
      cases h
      exact hs
    · split at h
      · next hs =>
        cases h
        exact hs
      · cases h
  · rintro rfl
    exact flag?_flag b

open Json (bind_eq_ok)

theorem levelField_eq_ok :
    levelField t ms = .ok level ↔ Carries ms ("compatibility", level.name) := by
  rw [← field_eq_ok (t := t)]
  refine ⟨fun h => ?_, levelField_name⟩
  obtain ⟨name, hfield, h⟩ := bind_eq_ok.1 h
  split at h
  · next hlevel =>
    cases h
    rwa [Level.name_of_ofName? hlevel]
  · cases h

theorem adminField_eq_ok : adminField ms = .ok admin ↔ Carries ms ("admin", flag admin) := by
  rw [← field_eq_ok (t := .createUser)]
  refine ⟨fun h => ?_, adminField_flag⟩
  obtain ⟨text, hfield, h⟩ := bind_eq_ok.1 h
  split at h
  · next hflag =>
    cases h
    rwa [← flag?_eq_some.1 hflag]
  · cases h

theorem ofPayload_eq_ok : ofPayload ms t = .ok r ↔ t = r.tag ∧ ∀ f ∈ r.own, Carries ms f := by
  constructor
  · intro h
    cases t with
    | schema =>
      obtain ⟨client, hclient, h⟩ := bind_eq_ok.1 h
      obtain ⟨subject, hsubject, h⟩ := bind_eq_ok.1 h
      obtain ⟨text, htext, h⟩ := bind_eq_ok.1 h
      cases h
      simp [own, fields, tag, field_eq_ok.1 hclient, field_eq_ok.1 hsubject, field_eq_ok.1 htext]
    | globalConfig =>
      obtain ⟨client, hclient, h⟩ := bind_eq_ok.1 h
      obtain ⟨level, hlevel, h⟩ := bind_eq_ok.1 h
      cases h
      simp [own, fields, tag, field_eq_ok.1 hclient, levelField_eq_ok.1 hlevel]
    | subjectConfig =>
      obtain ⟨client, hclient, h⟩ := bind_eq_ok.1 h
      obtain ⟨subject, hsubject, h⟩ := bind_eq_ok.1 h
      obtain ⟨level, hlevel, h⟩ := bind_eq_ok.1 h
      cases h
      simp [own, fields, tag, field_eq_ok.1 hclient, field_eq_ok.1 hsubject,
        levelField_eq_ok.1 hlevel]
    | createUser =>
      obtain ⟨admin, hadmin, h⟩ := bind_eq_ok.1 h
      obtain ⟨name, hname, h⟩ := bind_eq_ok.1 h
      obtain ⟨token, htoken, h⟩ := bind_eq_ok.1 h
      cases h
      simp [own, tag, adminField_eq_ok.1 hadmin, field_eq_ok.1 hname, field_eq_ok.1 htoken]
  · rintro ⟨rfl, hown⟩
    cases r with
    | schema client subject text =>
      simp only [own, fields, List.forall_mem_cons] at hown
      obtain ⟨hclient, htext, hsubject, -⟩ := hown
      simp only [ofPayload, tag, field_eq_ok.2 hclient, field_eq_ok.2 hsubject, field_eq_ok.2 htext]
      rfl
    | globalConfig client level =>
      simp only [own, fields, List.forall_mem_cons] at hown
      obtain ⟨hclient, hlevel, -⟩ := hown
      simp only [ofPayload, tag, field_eq_ok.2 hclient, levelField_eq_ok.2 hlevel]
      rfl
    | subjectConfig client subject level =>
      simp only [own, fields, List.forall_mem_cons] at hown
      obtain ⟨hclient, hlevel, hsubject, -⟩ := hown
      simp only [ofPayload, tag, field_eq_ok.2 hclient, field_eq_ok.2 hsubject,
        levelField_eq_ok.2 hlevel]
      rfl
    | createUser name token admin =>
      simp only [own, List.forall_mem_cons] at hown
      obtain ⟨hadmin, hname, htoken, -⟩ := hown
      simp only [ofPayload, tag, adminField_eq_ok.2 hadmin, field_eq_ok.2 hname,
        field_eq_ok.2 htoken]
      rfl

/-- A log entry holds a record: the key is its tag, and the value an object of strings that carries
all that makes the record. -/
def HeldBy (r : Record) (key : String) (v : Bytes) : Prop :=
  key = r.tag.name ∧ ∃ (text : String) (ms : List (String × String)),
    utf8 text = v ∧ Json.Document text.toList ms ∧ ∀ f ∈ r.own, Carries ms f

variable {key : String} {v : Bytes}

theorem decode_eq_ok : decode key v = .ok r ↔ r.HeldBy key v := by
  constructor
  · intro h
    rw [decode] at h
    cases htag : Tag.ofName? key with
    | none => simp [htag] at h
    | some t =>
      have hkey : t.name = key := by simpa using List.find?_some htag
      cases hread : Json.readAll Json.readStringMap v with
      | error e => simp [htag, hread] at h
      | ok ms =>
        simp only [htag, hread] at h
        obtain ⟨rfl, hown⟩ := ofPayload_eq_ok.1 h
        obtain ⟨text, htext, hdocument⟩ := Json.readAll_readStringMap.1 hread
        exact ⟨hkey.symm, text, ms, htext, hdocument, hown⟩
  · rintro ⟨rfl, text, ms, htext, hdocument, hown⟩
    have hread := Json.readAll_readStringMap.2 ⟨text, htext, hdocument⟩
    simp only [decode, Tag.ofName?_name, hread]
    exact ofPayload_eq_ok.2 ⟨rfl, hown⟩

theorem value_document (r : Record) : (∃ text : String, utf8 text = r.value ∧
    Json.Document text.toList r.fields) ∧ Carries r.fields ("client", r.stream) := by
  refine ⟨Json.readAll_readStringMap.1 (Json.readStringMap_writeObject r.fields), ?_⟩
  rw [← field_eq_ok (t := r.tag)]
  cases r <;> rfl

/-- Records are read back from what is written for them, and nothing is read from an entry but the
record that it holds. -/
theorem decode_exact :
    (∀ r : Record, decode r.key r.value = .ok r ∧ Tag.ofName? r.key = some r.tag ∧
      (∃ text : String, utf8 text = r.value ∧ Json.Document text.toList r.fields) ∧
      Carries r.fields ("client", r.stream)) ∧
    (∀ key v r, decode key v = .ok r ↔ r.HeldBy key v) ∧
    ∀ key v, (∃ e, decode key v = .error e) ↔ ∀ r : Record, ¬ r.HeldBy key v := by
  refine ⟨fun r => ?_, fun key v r => decode_eq_ok, fun key v => ?_⟩
  · exact ⟨decode_key_value r, Tag.ofName?_name r.tag, value_document r⟩
  · simp only [← decode_eq_ok]
    cases decode key v <;> simp

end SchemaRegistry.Record
