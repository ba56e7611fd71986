import SchemaRegistry.Log.Stem
import SchemaRegistry.Proofs.Utf8

namespace SchemaRegistry.Stem

theorem isPlain_percent : isPlain 37 = false := rfl

theorem decode?_escape (b : UInt8) (cs : List Char) :
    decode? (escape b ++ cs) = (decode? cs).map (b :: ·) := by
  unfold escape
  split
  · next h =>
    have hc : Char.ofNat b.toNat ≠ '%' := by
      intro hc
      have hb : b.toNat = 37 := by simpa [Bytes.toNat_char] using congrArg Char.toNat hc
      rw [show b = 37 from UInt8.toNat_inj.1 hb, isPlain_percent] at h
      exact absurd h (by simp)
    rw [List.singleton_append, decode?]
    · simp only [Bytes.toNat_char, UInt8.ofNat_toNat, h, ↓reduceIte]
      cases decode? cs <;> rfl
    · exact fun _ _ _ heq _ => hc heq
  · have hlow := Bytes.hexValue?_hexDigit (b.toNat % 16) (Nat.mod_lt _ (by decide))
    have hhigh := Bytes.hexValue?_hexDigit (b.toNat / 16)
      (Nat.div_lt_of_lt_mul (by have := b.toNat_lt; omega))
    have hb : UInt8.ofNat (b.toNat / 16 * 16 + b.toNat % 16) = b := by
      rw [Nat.div_add_mod', UInt8.ofNat_toNat]
    simp only [Bytes.hexPair, List.cons_append, List.nil_append, decode?, hlow, hhigh,
      Option.bind_eq_bind, Option.bind_some, hb]
    cases decode? cs <;> rfl

theorem decode?_chars (bs : Bytes) : decode? (chars bs) = some bs := by
  induction bs with
  | nil => rfl
  | cons b bs ih =>
    have := decode?_escape b (chars bs)
    rw [ih] at this
    exact this

def stream? (stem : String) : Option String := (decode? stem.toList).bind ofUtf8?

theorem stream?_ofStream (s : String) : stream? (ofStream s) = some s := by
  rw [stream?, ofStream, String.toList_ofList, decode?_chars, Option.bind_some, ofUtf8?_utf8]

theorem ofStream_injective {s t : String} (h : ofStream s = ofStream t) : s = t := by
  simpa [stream?_ofStream] using congrArg stream? h

theorem fileName_injective {s t : String} (h : fileName s = fileName t) : s = t :=
  ofStream_injective ((String.append_left_inj ".log").1 h)

theorem fileName_inj {s t : String} : fileName s = fileName t ↔ s = t :=
  ⟨fileName_injective, congrArg fileName⟩

def Legal (c : Char) : Prop := c.isAlphanum ∨ c = '-' ∨ c = '_' ∨ c = '%'

instance : DecidablePred Legal := fun c => inferInstanceAs (Decidable (_ ∨ c = '-' ∨ _))

theorem legal_of_isPlain {b : UInt8} (h : isPlain b) : Legal (Char.ofNat b.toNat) := by
  revert h
  exact Bytes.forall_of_lt (p := fun b => isPlain b → Legal (Char.ofNat b.toNat))
    (by decide +kernel) b

theorem legal_hexDigit : ∀ n < 16, Legal (Bytes.hexDigit n) := by decide

theorem legal_of_mem_escape {b : UInt8} {c : Char} (h : c ∈ escape b) : Legal c := by
  rw [escape] at h
  split at h
  · next hplain =>
    rw [List.mem_singleton.1 h]
    exact legal_of_isPlain hplain
  · have hb := b.toNat_lt
    simp only [Bytes.hexPair, List.mem_cons, List.not_mem_nil, or_false] at h
    rcases h with rfl | rfl | rfl
    · exact .inr (.inr (.inr rfl))
    · exact legal_hexDigit _ (by omega)
    · exact legal_hexDigit _ (by omega)

theorem legal_of_mem_ofStream {s : String} {c : Char} (h : c ∈ (ofStream s).toList) : Legal c := by
  rw [ofStream, String.toList_ofList, chars, List.mem_flatMap] at h
  obtain ⟨b, -, hb⟩ := h
  exact legal_of_mem_escape hb

theorem legal_or_dot_of_mem_fileName {s : String} {c : Char} (h : c ∈ (fileName s).toList) :
    Legal c ∨ c ∈ ".log".toList := by
  rw [fileName, String.toList_append, List.mem_append] at h
  exact h.imp_left legal_of_mem_ofStream

theorem slash_notMem_fileName (s : String) : '/' ∉ (fileName s).toList := fun h => by
  have := legal_or_dot_of_mem_fileName h
  revert this
  decide

end SchemaRegistry.Stem
