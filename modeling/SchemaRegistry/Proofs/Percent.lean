import SchemaRegistry.Proofs.Utf8
import SchemaRegistry.Url.Percent

namespace SchemaRegistry.Percent

variable {reserved : Reserved}

theorem upperDigit_lt : ∀ n < 16, (upperDigit n).toNat < 128 := by decide

theorem hexValue?_upperDigit : ∀ n < 16,
    Bytes.hexValue? (UInt8.ofNat (upperDigit n).toNat) = some n := by
  decide

theorem digits_lt (b : UInt8) : b.toNat / 16 < 16 ∧ b.toNat % 16 < 16 := by
  have := b.toNat_lt
  omega

theorem lt_of_encodes {b : UInt8} (h : encodes reserved b = false) : b.toNat < 127 := by
  simp only [encodes, Bool.or_eq_false_iff, decide_eq_false_iff_not, UInt8.not_le] at h
  exact h.1.2

theorem ascii_of_mem_encodeByte {b : UInt8} {c : Char} (h : c ∈ encodeByte reserved b) :
    c.toNat < 128 := by
  rw [encodeByte] at h
  split at h
  · obtain ⟨hhigh, hlow⟩ := digits_lt b
    simp only [List.mem_cons, List.not_mem_nil, or_false] at h
    rcases h with rfl | rfl | rfl
    · decide
    · exact upperDigit_lt _ hhigh
    · exact upperDigit_lt _ hlow
  · next hplain =>
    rw [List.mem_singleton.1 h, Bytes.toNat_char]
    exact Nat.lt_succ_of_lt (lt_of_encodes (by simpa using hplain))

def encodeBytes (reserved : Reserved) (bs : Bytes) : Bytes :=
  bs.flatMap fun b => (encodeByte reserved b).map fun c => UInt8.ofNat c.toNat

theorem utf8_encode (s : String) : utf8 (encode reserved s) = encodeBytes reserved (utf8 s) := by
  have hascii : ∀ c ∈ (utf8 s).flatMap (encodeByte reserved), c.toNat < 128 := by
    intro c hc
    obtain ⟨b, -, hb⟩ := List.mem_flatMap.1 hc
    exact ascii_of_mem_encodeByte hb
  rw [encode, utf8_ascii hascii, List.map_flatMap]
  rfl

theorem decodeBytes_cons {b : UInt8} (h : b ≠ 37) (rest : Bytes) :
    decodeBytes (b :: rest) = b :: decodeBytes rest := by
  rw [decodeBytes.eq_def]
  split
  · next heq => exact absurd (List.cons.inj heq).1 h
  · next heq => cases heq; rfl
  · next heq => cases heq

theorem decodeBytes_encodeByte (h : '%' ∈ reserved) (b : UInt8) (rest : Bytes) :
    decodeBytes ((encodeByte reserved b).map (fun c => UInt8.ofNat c.toNat) ++ rest) =
      b :: decodeBytes rest := by
  rw [encodeByte]
  split
  · obtain ⟨hhigh, hlow⟩ := digits_lt b
    have hb : UInt8.ofNat (b.toNat / 16 * 16 + b.toNat % 16) = b := by
      rw [Nat.div_add_mod', UInt8.ofNat_toNat]
    have hpercent : UInt8.ofNat '%'.toNat = 37 := rfl
    simp only [List.map_cons, List.map_nil, List.cons_append, List.nil_append, hpercent,
      decodeBytes, hexValue?_upperDigit _ hhigh, hexValue?_upperDigit _ hlow, hb]
  · next hplain =>
    have hne : b ≠ 37 := by
      rintro rfl
      apply hplain
      simp only [encodes, Bool.or_eq_true, List.any_eq_true]
      exact .inr ⟨'%', h, rfl⟩
    rw [List.map_singleton, List.singleton_append, Bytes.toNat_char, UInt8.ofNat_toNat,
      decodeBytes_cons hne]

theorem decodeBytes_encodeBytes (h : '%' ∈ reserved) (bs : Bytes) :
    decodeBytes (encodeBytes reserved bs) = bs := by
  induction bs with
  | nil => rfl
  | cons b bs ih =>
    rw [encodeBytes, List.flatMap_cons, decodeBytes_encodeByte h, ← encodeBytes, ih]

theorem decode?_encode (h : '%' ∈ reserved) (s : String) :
    decode? (encode reserved s) = some s := by
  rw [decode?, utf8_encode, decodeBytes_encodeBytes h, ofUtf8?_utf8]

end SchemaRegistry.Percent
