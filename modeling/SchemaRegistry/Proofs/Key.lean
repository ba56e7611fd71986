import SchemaRegistry.Proofs.Numeral
import SchemaRegistry.Store.Key
import SchemaRegistry.Table

/-!
Laws of keys.  As long as names hold no separator, a key tells its tenant, subject and version, and
keys are ordered by tenant, then by subject, then by version.
-/

namespace SchemaRegistry.Key

def Plain (name : String) : Prop := separator ∉ name.toList

instance : DecidablePred Plain := fun name => inferInstanceAs (Decidable (separator ∉ name.toList))

theorem Plain.bytes {name : String} (h : Plain name) : 0 ∉ utf8 name := zero_notMem_utf8 h

theorem isDigit_of_mem_padded {n : Nat} {c : Char} (h : c ∈ (padded n).toList) : c.isDigit := by
  rw [padded, String.toList_ofList, List.mem_append, List.mem_replicate] at h
  rcases h with ⟨-, rfl⟩ | h
  · rfl
  · exact Text.isDigit_of_mem_toDigits h

theorem ofDigitChars_padded (n : Nat) : Nat.ofDigitChars 10 (padded n).toList 0 = n := by
  simp [padded, Nat.ofDigitChars_append]

theorem length_padded {n : Nat} (h : n < 10000000000) : (padded n).toList.length = 10 := by
  have := (Nat.length_toDigits_le_iff (b := 10) (k := 10) (by decide) (by decide)).2 h
  rw [padded, String.toList_ofList, List.length_append, List.length_replicate]
  omega

theorem padded_ne_nil (n : Nat) : (padded n).toList ≠ [] := by
  simp [padded]

theorem plain_padded (n : Nat) : Plain (padded n) := fun h =>
  absurd (isDigit_of_mem_padded h) (by decide)

theorem natural?_padded (n : Nat) : Text.natural? (padded n) = some n := by
  have := Text.natural?_digits (padded_ne_nil n) fun _ => isDigit_of_mem_padded
  rwa [String.ofList_toList, ofDigitChars_padded] at this

theorem padded_inj {m n : Nat} : padded m = padded n ↔ m = n :=
  ⟨fun h => Option.some.inj (by rw [← natural?_padded m, h, natural?_padded]), congrArg padded⟩

theorem utf8_padded (n : Nat) :
    utf8 (padded n) = (padded n).toList.map fun c => UInt8.ofNat c.toNat := by
  rw [← Text.utf8_digits fun _ => isDigit_of_mem_padded, String.ofList_toList]

theorem padded_lt_iff {m n : Nat} (hm : m < 10000000000) (hn : n < 10000000000) :
    KeyLt (padded m) (padded n) ↔ m < n := by
  have hlt {m n : Nat} (hm : m < 10000000000) (hn : n < 10000000000)
    (h : KeyLt (padded m) (padded n)) :
      m < n := by
    rw [KeyLt, utf8_padded, utf8_padded] at h
    have := Text.ofDigitChars_lt (fun _ => isDigit_of_mem_padded) (fun _ => isDigit_of_mem_padded)
      ((length_padded hm).trans (length_padded hn).symm) h
    rwa [ofDigitChars_padded, ofDigitChars_padded] at this
  refine ⟨hlt hm hn, fun h => ?_⟩
  by_cases hkey : KeyLt (padded m) (padded n)
  · exact hkey
  · have hne : padded m ≠ padded n := fun heq => Nat.ne_of_lt h (padded_inj.1 heq)
    exact absurd (hlt hn hm (KeyLt.of_not hne hkey)) (Nat.lt_asymm h)

theorem utf8_separator : utf8 separator.toString = [0] := by
  rw [separator, Char.toString_eq_singleton, String.singleton_eq_ofList, utf8_ofList]
  rfl

theorem utf8_tenantPrefix (t : String) : utf8 (tenantPrefix t) = utf8 t ++ [0] := by
  rw [tenantPrefix, utf8_append, utf8_separator]

theorem utf8_subjectPrefix (t s : String) :
    utf8 (subjectPrefix t s) = utf8 t ++ 0 :: (utf8 s ++ [0]) := by
  simp only [subjectPrefix, utf8_append, utf8_separator, List.append_assoc, List.cons_append,
    List.nil_append]

theorem utf8_schema (t s : String) (v : Nat) :
    utf8 (schema t s v) = utf8 t ++ 0 :: (utf8 s ++ 0 :: utf8 (padded v)) := by
  simp [schema, utf8_subjectPrefix]

theorem utf8_subjectLevel (t s : String) : utf8 (subjectLevel t s) = utf8 t ++ 0 :: utf8 s := by
  simp only [subjectLevel, utf8_append, utf8_separator, List.append_assoc, List.singleton_append]

theorem isPrefix_append (t w : String) :
    utf8 (tenantPrefix t) <+: utf8 (tenantPrefix t ++ w) := by
  rw [utf8_append]
  exact List.prefix_append ..

theorem isPrefix_subjectPrefix (t s : String) :
    utf8 (tenantPrefix t) <+: utf8 (subjectPrefix t s) := by
  rw [subjectPrefix, String.append_assoc]
  exact isPrefix_append ..

theorem isPrefix_schema (t s : String) (v : Nat) :
    utf8 (tenantPrefix t) <+: utf8 (schema t s v) := by
  rw [schema, subjectPrefix, String.append_assoc, String.append_assoc]
  exact isPrefix_append ..

theorem isPrefix_subjectLevel (t s : String) :
    utf8 (tenantPrefix t) <+: utf8 (subjectLevel t s) :=
  isPrefix_append ..

variable {t t' s s' : String}

theorem schema_lt_iff (ht : Plain t) (ht' : Plain t') (hs : Plain s) (hs' : Plain s') {v v' : Nat}
    (hv : v < 10000000000) (hv' : v' < 10000000000) :
    KeyLt (schema t s v) (schema t' s' v') ↔
      KeyLt t t' ∨ t = t' ∧ (KeyLt s s' ∨ s = s' ∧ v < v') := by
  rw [KeyLt, utf8_schema, utf8_schema, Bytes.lt_append_zero ht.bytes ht'.bytes,
    Bytes.lt_append_zero hs.bytes hs'.bytes, utf8_inj, utf8_inj, ← padded_lt_iff hv hv']
  rfl

theorem schema_inj (ht : Plain t) (ht' : Plain t') (hs' : Plain s') {v v' : Nat}
    (h : schema t s v = schema t' s' v') : t = t' ∧ s = s' ∧ v = v' := by
  have h := congrArg utf8 h
  rw [utf8_schema, utf8_schema] at h
  obtain ⟨htenant, h⟩ := Bytes.append_zero_inj ht.bytes h (.inl ht'.bytes)
  obtain ⟨hsubject, hversion⟩ :=
    Bytes.append_zero_inj hs'.bytes h.symm (.inr (plain_padded v').bytes)
  exact ⟨utf8_inj.1 htenant, utf8_inj.1 hsubject.symm, padded_inj.1 (utf8_inj.1 hversion.symm)⟩

theorem subjectLevel_inj (ht : Plain t) (ht' : Plain t')
    (h : subjectLevel t s = subjectLevel t' s') : t = t' ∧ s = s' := by
  have h := congrArg utf8 h
  rw [utf8_subjectLevel, utf8_subjectLevel] at h
  obtain ⟨htenant, hsubject⟩ := Bytes.append_zero_inj ht.bytes h (.inl ht'.bytes)
  exact ⟨utf8_inj.1 htenant, utf8_inj.1 hsubject⟩

theorem tenantPrefix_isPrefix_schema (ht : Plain t) (ht' : Plain t') (v : Nat) :
    utf8 (tenantPrefix t) <+: utf8 (schema t' s v) ↔ t = t' := by
  constructor
  · rintro ⟨rest, h⟩
    rw [utf8_tenantPrefix, utf8_schema, List.append_assoc, List.singleton_append] at h
    exact utf8_inj.1 (Bytes.append_zero_inj ht.bytes h (.inl ht'.bytes)).1
  · rintro rfl
    exact isPrefix_schema ..

theorem subjectPrefix_isPrefix_schema (ht : Plain t) (ht' : Plain t') (hs' : Plain s') (v : Nat) :
    utf8 (subjectPrefix t s) <+: utf8 (schema t' s' v) ↔ t = t' ∧ s = s' := by
  rw [utf8_subjectPrefix, utf8_schema]
  constructor
  · rintro ⟨rest, h⟩
    simp only [List.append_assoc, List.cons_append, List.nil_append] at h
    obtain ⟨htenant, h⟩ := Bytes.append_zero_inj ht.bytes h (.inl ht'.bytes)
    have hsubject := Bytes.append_zero_inj hs'.bytes h.symm (.inr fun hzero => ?_)
    · exact ⟨utf8_inj.1 htenant, utf8_inj.1 hsubject.1.symm⟩
    · exact (plain_padded v).bytes hzero
  · rintro ⟨rfl, rfl⟩
    exact ⟨utf8 (padded v), by simp⟩

theorem cut_append {cs : List Char} (h : separator ∉ cs) (ds : List Char) :
    cut (cs ++ separator :: ds) = some (cs, ds) := by
  induction cs with
  | nil => rfl
  | cons c cs ih =>
    rw [List.mem_cons, not_or] at h
    rw [List.cons_append, cut, if_neg (Ne.symm h.1), ih h.2]
    rfl

theorem toList_schema (t s : String) (v : Nat) :
    (schema t s v).toList =
      t.toList ++ separator :: (s.toList ++ separator :: (padded v).toList) := by
  simp [schema, subjectPrefix, Char.toString_eq_singleton]

theorem parse?_schema (ht : Plain t) (hs : Plain s) {v : Nat} (hv : v < 0x100000000) :
    parse? (schema t s v) = some (s, v) := by
  have hversion : (some v).filter (· < 0x100000000) = some v := Option.filter_some_pos (by simpa)
  simp [parse?, toList_schema, cut_append ht, cut_append hs, natural?_padded, hversion]

theorem count_cut {cs before behind : List Char} (h : cut cs = some (before, behind)) :
    cs.count separator = behind.count separator + 1 := by
  induction cs generalizing before with
  | nil => cases h
  | cons c cs ih =>
    rw [cut] at h
    split at h
    · next hc =>
      cases h
      rw [hc, List.count_cons_self]
    · next hc =>
      obtain ⟨⟨before', behind'⟩, hcut, heq⟩ := Option.map_eq_some_iff.1 h
      cases heq
      rw [List.count_cons_of_ne hc, ih hcut]

theorem count_of_parse? {key : String} {x : String × Nat} (h : parse? key = some x) :
    key.toList.count separator = 2 := by
  simp only [parse?, Option.bind_eq_bind, Option.bind_eq_some_iff] at h
  obtain ⟨⟨before, rest⟩, hrest, ⟨subject, version⟩, hversion, n, hn, -⟩ := h
  have hnumeral := (Option.filter_eq_some_iff.1 hn).1
  have hnone : separator ∉ version := fun hmem => by
    have := Text.isDigit_of_natural? hnumeral (c := separator) (by rwa [String.toList_ofList])
    revert this
    decide
  rw [count_cut hrest, count_cut hversion, List.count_eq_zero.2 hnone]

theorem count_padded (v : Nat) : (padded v).toList.count separator = 0 :=
  List.count_eq_zero.2 (plain_padded v)

theorem count_subjectPrefix (t s : String) : (subjectPrefix t s).toList.count separator =
    t.toList.count separator + s.toList.count separator + 2 := by
  simp only [subjectPrefix, Char.toString_eq_singleton, String.append_singleton, String.toList_push,
    String.toList_append, List.count_append, List.count_cons_self, List.count_nil]
  omega

theorem count_schema (t s : String) (v : Nat) : (schema t s v).toList.count separator =
    t.toList.count separator + s.toList.count separator + 2 := by
  rw [schema, String.toList_append, List.count_append, count_padded, count_subjectPrefix,
    Nat.add_zero]

/-- A key is read back only if no name in it holds a separator. -/
theorem plain_of_parse? {v : Nat} {x : String × Nat} (h : parse? (schema t s v) = some x) :
    Plain t ∧ Plain s := by
  have hcount := count_of_parse? h
  rw [count_schema] at hcount
  exact ⟨List.count_eq_zero.1 (by omega), List.count_eq_zero.1 (by omega)⟩

theorem plain_of_isPrefix {v : Nat} (ht' : Plain t') (hs' : Plain s')
    (h : utf8 (subjectPrefix t s) <+: utf8 (schema t' s' v)) : Plain t ∧ Plain s := by
  obtain ⟨rest, hrest⟩ := h
  obtain ⟨w, hw, -⟩ := exists_of_utf8_append hrest.symm
  have hcount := congrArg (·.toList.count separator) hw
  simp only [count_schema, String.toList_append, List.count_append, count_subjectPrefix,
    List.count_eq_zero.2 ht', List.count_eq_zero.2 hs'] at hcount
  exact ⟨List.count_eq_zero.1 (by omega), List.count_eq_zero.1 (by omega)⟩

/-- Two names, neither of which goes on with a separator where the other one ends. -/
def Apart (t u : String) : Prop :=
  t ≠ u ∧ (∀ w, u ≠ tenantPrefix t ++ w) ∧ ∀ w, t ≠ tenantPrefix u ++ w

theorem apart_of_plain {t u : String} (ht : Plain t) (hu : Plain u) (h : t ≠ u) : Apart t u := by
  have hmem (name w : String) : separator ∈ (tenantPrefix name ++ w).toList := by
    simp [tenantPrefix, Char.toString_eq_singleton]
  exact ⟨h, fun w hw => hu (hw ▸ hmem t w), fun w hw => ht (hw ▸ hmem u w)⟩

theorem Apart.symm {t u : String} (h : Apart t u) : Apart u t := ⟨h.1.symm, h.2.2, h.2.1⟩

theorem Apart.not_isPrefix {t u : String} (h : Apart t u) :
    ¬ utf8 (tenantPrefix t) <+: utf8 (tenantPrefix u) := by
  rintro ⟨rest, hrest⟩
  rw [utf8_tenantPrefix u] at hrest
  -- what is behind the shorter prefix is empty, or ends with the separator of the longer one
  rcases List.eq_nil_or_concat rest with rfl | ⟨rest, b, rfl⟩
  · rw [List.append_nil, utf8_tenantPrefix] at hrest
    exact h.1 (utf8_inj.1 (List.append_inj_left' hrest rfl))
  · rw [List.concat_eq_append, ← List.append_assoc] at hrest
    obtain ⟨w, hw, -⟩ := exists_of_utf8_append (List.append_inj_left' hrest rfl).symm
    exact h.2.1 w hw

theorem Apart.not_isPrefix_of_isPrefix {t u key : String} (h : Apart t u)
    (hkey : utf8 (tenantPrefix u) <+: utf8 key) : ¬ utf8 (tenantPrefix t) <+: utf8 key := by
  intro ht
  rcases List.prefix_or_prefix_of_prefix ht hkey with hle | hle
  · exact h.not_isPrefix hle
  · exact h.symm.not_isPrefix hle

end SchemaRegistry.Key
