import SchemaRegistry.Proofs.Numeral
import SchemaRegistry.Proofs.Json

namespace SchemaRegistry

namespace Text

def digitBytes (n : Nat) : Bytes := (Nat.toDigits 10 n).map fun c => UInt8.ofNat c.toNat

theorem utf8_repr (n : Nat) : utf8 n.repr = digitBytes n := by
  rw [Nat.repr_eq_ofList_toDigits, utf8_digits fun _ => isDigit_of_mem_toDigits]
  rfl

theorem isDigit_byte {c : Char} (h : c.isDigit) : Bytes.isDigit (UInt8.ofNat c.toNat) := by
  have hrange := toNat_of_isDigit h
  have hbyte := toNat_byte_of_isDigit h
  simp only [Bytes.isDigit, Bool.and_eq_true, decide_eq_true_eq, UInt8.le_iff_toNat_le, hbyte]
  exact hrange

theorem isDigit_of_mem_digitBytes {n : Nat} {b : UInt8} (h : b ∈ digitBytes n) :
    Bytes.isDigit b := by
  obtain ⟨c, hc, rfl⟩ := List.mem_map.1 h
  exact isDigit_byte (isDigit_of_mem_toDigits hc)

theorem toDigits_head {n : Nat} {c : Char} {cs : List Char} (h : Nat.toDigits 10 n = c :: cs)
    (hn : 0 < n) : c ≠ '0' := by
  induction n using Nat.strongRecOn generalizing cs with
  | ind n ih =>
    by_cases hsmall : n < 10
    · rw [Nat.toDigits_of_lt_base hsmall, List.cons.injEq] at h
      rintro rfl
      have hvalue := congrArg (fun c => (Nat.ofDigitChars 10 [c] 0)) h.1
      rw [← Nat.toDigits_of_lt_base hsmall,
        Nat.ofDigitChars_toDigits (by decide) (by decide)] at hvalue
      exact absurd hvalue (Nat.ne_of_gt hn)
    · rw [Nat.toDigits_of_base_le (by decide) (by omega)] at h
      cases hfront : Nat.toDigits 10 (n / 10) with
      | nil => exact absurd hfront Nat.toDigits_ne_nil
      | cons d ds =>
        rw [hfront, List.cons_append, List.cons.injEq] at h
        exact ih (n / 10) (by omega) (h.1 ▸ hfront) (by omega)

end Text

namespace Json

open Text (digitBytes)

def EndsNumber (s : Bytes) : Prop :=
  ∀ b ∈ s.head?, Bytes.isDigit b = false ∧ b ≠ 46 ∧ isExponentMark b = false

variable {n : Nat} {s : Bytes}

theorem digitBytes_cons (n : Nat) : ∃ d ds, digitBytes n = d :: ds ∧ Bytes.isDigit d ∧
    (∀ b ∈ ds, Bytes.isDigit b) ∧ (d = 48 → ds = []) := by
  cases hdigits : digitBytes n with
  | nil => exact absurd (List.map_eq_nil_iff.1 hdigits) Nat.toDigits_ne_nil
  | cons d ds =>
    have hall : ∀ b ∈ d :: ds, Bytes.isDigit b := fun b hb =>
      Text.isDigit_of_mem_digitBytes (hdigits ▸ hb)
    refine ⟨d, ds, rfl, hall d List.mem_cons_self, fun b hb => hall b (List.mem_cons_of_mem d hb),
      fun hzero => ?_⟩
    obtain ⟨c, cs, hcs, hc, hds⟩ := List.map_eq_cons_iff.1 hdigits
    rcases Nat.eq_zero_or_pos n with rfl | hn
    · cases hcs
      exact hds.symm
    · have hdigit : c.isDigit := Text.isDigit_of_mem_toDigits (hcs ▸ List.mem_cons_self)
      have hbyte := Text.toNat_byte_of_isDigit hdigit
      rw [hc, hzero] at hbyte
      exact absurd (Char.toNat_inj.1 hbyte.symm) (Text.toDigits_head hcs hn)

theorem takeDigits_digits {cs : List Char} (hdigits : ∀ c ∈ cs, c.isDigit) (m k : Nat)
    (h : Nat.ofDigitChars 10 cs m < 0x10000000000000000) :
    takeDigits m k (cs.map fun c => UInt8.ofNat c.toNat) =
      (Nat.ofDigitChars 10 cs m, k + cs.length, 0) := by
  induction cs generalizing m k with
  | nil => rfl
  | cons c cs ih =>
    obtain ⟨hc, hcs⟩ := List.forall_mem_cons.1 hdigits
    have hnext : m * 10 + ((UInt8.ofNat c.toNat).toNat - 48) = 10 * m + (c.toNat - 48) := by
      rw [Text.toNat_byte_of_isDigit hc, Nat.mul_comm]
    have h : Nat.ofDigitChars 10 cs (10 * m + (c.toNat - 48)) < 0x10000000000000000 := by
      rwa [Nat.ofDigitChars_cons] at h
    have hfits : 10 * m + (c.toNat - 48) < 0x10000000000000000 := by
      refine Nat.lt_of_le_of_lt ?_ h
      rw [Nat.ofDigitChars_eq_ofDigitChars_zero]
      exact Nat.le_trans (Nat.le_mul_of_pos_left _ (Nat.pow_pos (by decide))) (Nat.le_add_right ..)
    rw [List.map_cons, takeDigits, hnext, if_pos hfits, ih hcs _ _ h, List.length_cons,
      Nat.add_assoc, Nat.add_comm 1]
    rfl

theorem readNumber_digitBytes (negative : Bool) (hn : n < 0x10000000000000000)
    (hs : EndsNumber s) :
    readNumber negative (digitBytes n ++ s) = wholeNumber negative n s := by
  obtain ⟨d, ds, hdigits, hd, hds, hzero⟩ := digitBytes_cons n
  have hstop : s.takeWhile Bytes.isDigit = [] ∧ s.dropWhile Bytes.isDigit = s := by
    cases s with
    | nil => exact ⟨rfl, rfl⟩
    | cons b s => simp [(hs b rfl).1]
  have htake : (digitBytes n ++ s).takeWhile Bytes.isDigit = digitBytes n := by
    rw [List.takeWhile_append_of_pos fun b => Text.isDigit_of_mem_digitBytes, hstop.1,
      List.append_nil]
  have hdrop : (digitBytes n ++ s).dropWhile Bytes.isDigit = s := by
    rw [List.dropWhile_append_of_pos fun b => Text.isDigit_of_mem_digitBytes, hstop.2]
  have hnumber : takeDigits 0 0 (digitBytes n) = (n, (Nat.toDigits 10 n).length, 0) := by
    have hvalue := Nat.ofDigitChars_toDigits (n := n) (b := 10) (by decide) (by decide)
    have := takeDigits_digits (fun _ => Text.isDigit_of_mem_toDigits) 0 0 (hvalue.symm ▸ hn)
    rwa [hvalue, Nat.zero_add] at this
  have hleading : (d = 48 && (ds ++ s).head?.any Bytes.isDigit) = false := by
    by_cases h48 : d = 48
    · rw [hzero h48, List.nil_append]
      cases s with
      | nil => simp
      | cons b s => simp [(hs b rfl).1]
    · simp [h48]
  rw [hdigits, List.cons_append] at htake hdrop ⊢
  rw [← hdigits] at htake
  simp only [readNumber, hd, hleading, htake, hdrop, hnumber]
  cases s with
  | nil => rfl
  | cons b s =>
    obtain ⟨-, hpoint, hmark⟩ := hs b rfl
    simp [hpoint, hmark]

theorem isBlank_of_isDigit {b : UInt8} (h : Bytes.isDigit b) : isBlank b = false := by
  cases hblank : isBlank b with
  | false => rfl
  | true =>
    simp only [isBlank, Bool.or_eq_true, decide_eq_true_eq] at hblank
    rcases hblank with ((rfl | rfl) | rfl) | rfl <;> exact absurd h (by decide)

theorem readInteger_write {k : IntegerKind} {i : Int} (hk : k.least ≤ i ∧ i ≤ k.greatest)
    (hlow : -0x8000000000000000 ≤ i) (hhigh : i < 0x10000000000000000) (hs : EndsNumber s) :
    readInteger k (writeInteger i ++ s) = .ok (i, s) := by
  have hkind : k.ofNumber (.whole i) = .ok i := if_pos (by simpa using hk)
  rw [writeInteger, Int.toString_eq_repr, Int.repr_eq_if]
  split
  · next hpos =>
    obtain ⟨d, ds, hdigits, hd, -, -⟩ := digitBytes_cons i.toNat
    have hnumber : readNumber false (digitBytes i.toNat ++ s) = .ok (.whole i, s) := by
      rw [readNumber_digitBytes false (by omega) hs, wholeNumber, Int.toNat_of_nonneg hpos]
      rfl
    have hminus : d ≠ 45 := fun h => absurd (h ▸ hd) (by decide)
    rw [Text.utf8_repr]
    rw [hdigits, List.cons_append] at hnumber ⊢
    simp only [readInteger, skipBlank, List.dropWhile_cons, isBlank_of_isDigit hd, hd, hminus,
      decide_false, Bool.or_true, Bool.false_eq_true, ↓reduceIte, hnumber, bind, Except.bind, hkind]
    rfl
  · next hneg =>
    have hnumber : readNumber true (digitBytes (-i).toNat ++ s) = .ok (.whole i, s) := by
      have hrange : 0 < (-i).toNat ∧ (-i).toNat ≤ 0x8000000000000000 := by omega
      have hback : -((-i).toNat : Int) = i := by omega
      rw [readNumber_digitBytes true (by omega) hs, wholeNumber]
      simp only [Bool.not_true, Bool.false_eq_true, ↓reduceIte, hrange, hback, and_self]
    have hsign : utf8 "-" = [45] := by decide
    rw [utf8_append, Text.utf8_repr, hsign, List.append_assoc, List.singleton_append]
    have hblank : skipBlank (45 :: (digitBytes (-i).toNat ++ s)) =
        45 :: (digitBytes (-i).toNat ++ s) := rfl
    simp only [readInteger, hblank, decide_true, Bool.true_or, ↓reduceIte, hnumber, bind,
      Except.bind, hkind]
    rfl

end Json

end SchemaRegistry
