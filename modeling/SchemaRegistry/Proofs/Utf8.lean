import SchemaRegistry.Text.Utf8

/-!
Texts as bytes.  NUL is the only character with a zero byte, so parts of a text that NUL separates
are told apart in its bytes, and come in the byte order of the first parts that differ.
-/

namespace SchemaRegistry

theorem utf8_ofList (cs : List Char) :
    utf8 (String.ofList cs) = cs.flatMap String.utf8EncodeChar := by
  rw [utf8, String.toByteArray_ofList, List.utf8Encode]
  simp

theorem utf8_eq_flatMap (s : String) : utf8 s = s.toList.flatMap String.utf8EncodeChar := by
  rw [← utf8_ofList, String.ofList_toList]

theorem utf8EncodeChar_ascii {c : Char} (h : c.toNat < 128) :
    String.utf8EncodeChar c = [UInt8.ofNat c.toNat] :=
  if_pos (Nat.le_of_lt_succ h)

theorem utf8_ascii {cs : List Char} (h : ∀ c ∈ cs, c.toNat < 128) :
    utf8 (String.ofList cs) = cs.map fun c => UInt8.ofNat c.toNat := by
  rw [utf8_ofList]
  induction cs with
  | nil => rfl
  | cons c cs ih =>
    obtain ⟨hc, hcs⟩ := List.forall_mem_cons.1 h
    rw [List.flatMap_cons, utf8EncodeChar_ascii hc, ih hcs]
    rfl

theorem utf8EncodeChar_long {c : Char} (h : ¬ c.toNat < 128) :
    ∃ b bs, String.utf8EncodeChar c = b :: bs ∧
    0xC0 ≤ b.toNat ∧ ∀ x ∈ bs, 0x80 ≤ x.toNat ∧ x.toNat < 0xC0 := by
  have hlong : ¬ c.val.toNat ≤ 0x7f := fun hle => h (Nat.lt_succ_of_le hle)
  have hvalid : c.val.toNat < 0x110000 := by
    have := c.valid
    simp only [UInt32.isValidChar, Nat.isValidChar] at this
    omega
  simp only [String.utf8EncodeChar, hlong, ↓reduceIte]
  generalize c.val.toNat = v at hvalid
  repeat' split
  all_goals
    refine ⟨_, _, rfl, ?_, ?_⟩
    · rw [UInt8.toNat_ofNat']
      omega
    · simp only [List.forall_mem_cons, List.not_mem_nil, false_imp_iff, implies_true, and_true,
        UInt8.toNat_ofNat']
      omega

theorem not_continuation_of_cons {c : Char} {s t : Bytes} {x : UInt8}
    (h : String.utf8EncodeChar c ++ s = x :: t) : ¬ (0x80 ≤ x.toNat ∧ x.toNat < 0xC0) := by
  by_cases hascii : c.toNat < 128
  · rw [utf8EncodeChar_ascii hascii] at h
    obtain ⟨rfl, -⟩ := List.cons.inj h
    rw [UInt8.toNat_ofNat']
    omega
  · obtain ⟨b, bs, hbytes, hb, -⟩ := utf8EncodeChar_long hascii
    rw [hbytes] at h
    obtain ⟨rfl, -⟩ := List.cons.inj h
    omega

theorem zero_mem_utf8EncodeChar {c : Char} (h : 0 ∈ String.utf8EncodeChar c) : c = '\x00' := by
  by_cases hascii : c.toNat < 128
  · rw [utf8EncodeChar_ascii hascii, List.mem_singleton] at h
    have hzero := congrArg UInt8.toNat h
    rw [UInt8.toNat_ofNat', Nat.mod_eq_of_lt (by omega)] at hzero
    exact Char.toNat_inj.1 hzero.symm
  · obtain ⟨b, bs, hbytes, hb, hbs⟩ := utf8EncodeChar_long hascii
    rw [hbytes, List.mem_cons] at h
    rcases h with rfl | h
    · cases hb
    · cases (hbs 0 h).1

theorem zero_notMem_utf8 {s : String} (h : '\x00' ∉ s.toList) : 0 ∉ utf8 s := by
  rw [utf8_eq_flatMap, List.mem_flatMap]
  rintro ⟨c, hc, hzero⟩
  exact h (zero_mem_utf8EncodeChar hzero ▸ hc)

theorem ofUtf8?_eq_some {bs : Bytes} {s : String} : ofUtf8? bs = some s ↔ utf8 s = bs := by
  constructor
  · intro h
    rw [ofUtf8?, String.fromUTF8?] at h
    split at h
    · cases h
      simp [utf8, String.fromUTF8]
    · cases h
  · rintro rfl
    exact ofUtf8?_utf8 s

theorem Utf8.decode_eq_ok {bs : Bytes} {s : String} : decode bs = .ok s ↔ utf8 s = bs := by
  constructor
  · intro h
    rw [decode] at h
    split at h
    · next hs => cases h; exact ofUtf8?_eq_some.1 hs
    · cases h
  · rintro rfl
    exact decode_utf8 s

theorem exists_of_utf8_append {s t : String} {bs : Bytes} (h : utf8 s = utf8 t ++ bs) :
    ∃ w, s = t ++ w ∧ utf8 w = bs := by
  have hrest (cs : List Char) (b : ByteArray) (hb : (cs.utf8Encode ++ b).IsValidUTF8) :
      b.IsValidUTF8 := by
    induction cs with
    | nil => simpa using hb
    | cons c cs ih =>
      rw [List.utf8Encode_cons, ByteArray.append_assoc,
        ByteArray.isValidUTF8_utf8Encode_singleton_append_iff] at hb
      exact ih hb
  have hs : s.toByteArray = t.toByteArray ++ ⟨bs.toArray⟩ := by
    apply ByteArray.ext
    apply Array.toList_inj.1
    simpa [utf8] using h
  have hvalid : (⟨bs.toArray⟩ : ByteArray).IsValidUTF8 := by
    have := s.isValidUTF8
    rw [hs, ← String.ofList_toList (s := t), String.toByteArray_ofList] at this
    exact hrest _ _ this
  refine ⟨⟨⟨bs.toArray⟩, hvalid⟩, utf8_injective ?_, rfl⟩
  rw [h, utf8_append]
  rfl

namespace Bytes

theorem forall_of_lt {p : UInt8 → Prop} (h : ∀ n < 256, p (UInt8.ofNat n)) (b : UInt8) : p b := by
  have hb := h b.toNat b.toNat_lt
  rwa [UInt8.ofNat_toNat] at hb

theorem toNat_char (b : UInt8) : (Char.ofNat b.toNat).toNat = b.toNat := by
  have hb := b.toNat_lt
  have hvalid : b.toNat.isValidChar := .inl (by omega)
  rw [Char.ofNat, dif_pos hvalid]
  rfl

theorem lt_append_zero {a b : Bytes} (ha : 0 ∉ a) (hb : 0 ∉ b) (x y : Bytes) :
    a ++ 0 :: x < b ++ 0 :: y ↔ a < b ∨ a = b ∧ x < y := by
  induction a generalizing b with
  | nil =>
    cases b with
    | nil => simp
    | cons c b =>
      have hc : (0 : UInt8) < c := UInt8.pos_iff_ne_zero.2 fun h => hb (h ▸ List.mem_cons_self)
      simp [List.cons_lt_cons_iff, hc]
  | cons c a ih =>
    rw [List.mem_cons, not_or] at ha
    cases b with
    | nil =>
      have hc : ¬ c < 0 := UInt8.not_lt_zero
      simp [List.cons_lt_cons_iff, hc, Ne.symm ha.1]
    | cons d b =>
      rw [List.mem_cons, not_or] at hb
      simp only [List.cons_append, List.cons_lt_cons_iff, ih ha.2 hb.2, List.cons.injEq]
      constructor
      · rintro (h | ⟨rfl, h | ⟨rfl, h⟩⟩)
        · exact .inl (.inl h)
        · exact .inl (.inr ⟨rfl, h⟩)
        · exact .inr ⟨⟨rfl, rfl⟩, h⟩
      · rintro ((h | ⟨rfl, h⟩) | ⟨⟨rfl, rfl⟩, h⟩)
        · exact .inl h
        · exact .inr ⟨rfl, .inl h⟩
        · exact .inr ⟨rfl, .inr ⟨rfl, h⟩⟩

theorem append_zero_inj {a b x y : Bytes} (ha : 0 ∉ a) (h : a ++ 0 :: x = b ++ 0 :: y)
    (hb : 0 ∉ b ∨ 0 ∉ x) : a = b ∧ x = y := by
  induction a generalizing b with
  | nil =>
    cases b with
    | nil => exact ⟨rfl, (List.cons.inj h).2⟩
    | cons d b =>
      obtain ⟨rfl, hx⟩ := List.cons.inj h
      rcases hb with hb | hb
      · exact absurd List.mem_cons_self hb
      · exact absurd (List.mem_append_right b List.mem_cons_self) (hx ▸ hb)
  | cons c a ih =>
    rw [List.mem_cons, not_or] at ha
    cases b with
    | nil => exact absurd (List.cons.inj h).1.symm ha.1
    | cons d b =>
      obtain ⟨rfl, hrest⟩ := List.cons.inj h
      obtain ⟨rfl, rfl⟩ :=
        ih ha.2 hrest (hb.imp_left fun hb hmem => hb (List.mem_cons_of_mem _ hmem))
      exact ⟨rfl, rfl⟩

end Bytes

end SchemaRegistry
