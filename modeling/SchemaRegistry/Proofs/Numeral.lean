import SchemaRegistry.Proofs.Utf8
import SchemaRegistry.Text.Numeral

/-!
Decimal digits and what they stand for.  Among numerals of one length the byte order is the order of
numbers.
-/

namespace SchemaRegistry.Text

theorem toNat_of_isDigit {c : Char} (h : c.isDigit) : 48 ≤ c.toNat ∧ c.toNat ≤ 57 := by
  simpa [Char.isDigit, UInt32.le_iff_toNat_le] using h

theorem toNat_byte_of_isDigit {c : Char} (h : c.isDigit) :
    (UInt8.ofNat c.toNat).toNat = c.toNat := by
  have := toNat_of_isDigit h
  rw [UInt8.toNat_ofNat', Nat.mod_eq_of_lt (by omega)]

theorem isDigit_of_mem_toDigits {n : Nat} {c : Char} (h : c ∈ Nat.toDigits 10 n) : c.isDigit :=
  Nat.isDigit_of_mem_toDigits (by decide) (by decide) h

theorem utf8_digits {cs : List Char} (h : ∀ c ∈ cs, c.isDigit) :
    utf8 (String.ofList cs) = cs.map fun c => UInt8.ofNat c.toNat := by
  refine utf8_ascii fun c hc => ?_
  have := toNat_of_isDigit (h c hc)
  omega

theorem digits?_eq {cs : List Char} (hne : cs ≠ []) (h : ∀ c ∈ cs, c.isDigit) :
    digits? cs = some (Nat.ofDigitChars 10 cs 0) := by
  have hall : cs.all Char.isDigit = true := List.all_eq_true.2 h
  simp only [digits?, List.isEmpty_eq_false_iff.2 hne, hall, Nat.ofDigitChars,
    Nat.mul_comm 10]
  rfl

theorem natural?_digits {cs : List Char} (hne : cs ≠ []) (h : ∀ c ∈ cs, c.isDigit) :
    natural? (String.ofList cs) = some (Nat.ofDigitChars 10 cs 0) := by
  rw [natural?, String.toList_ofList]
  split
  · exact absurd (h '+' List.mem_cons_self) (by decide)
  · exact digits?_eq hne h

theorem isDigit_of_digits? {cs : List Char} {n : Nat} (h : digits? cs = some n) :
    ∀ c ∈ cs, c.isDigit := by
  rw [digits?] at h
  split at h
  · cases h
  · next hdigits =>
    rw [Bool.or_eq_true, not_or, Bool.not_eq_true', Bool.not_eq_false] at hdigits
    exact List.all_eq_true.1 hdigits.2

theorem isDigit_of_natural? {s : String} {n : Nat} (h : natural? s = some n) {c : Char}
    (hc : c ∈ s.toList) : c = '+' ∨ c.isDigit := by
  rw [natural?] at h
  split at h
  · next cs hcs =>
    rw [hcs] at hc
    exact (List.mem_cons.1 hc).imp_right (isDigit_of_digits? h c)
  · exact .inr (isDigit_of_digits? h c hc)

theorem ofDigitChars_cons (c : Char) (cs : List Char) :
    Nat.ofDigitChars 10 (c :: cs) 0 =
      Nat.pow 10 cs.length * (c.toNat - 48) + Nat.ofDigitChars 10 cs 0 := by
  rw [Nat.ofDigitChars_cons, Nat.ofDigitChars_eq_ofDigitChars_zero, Nat.mul_zero, Nat.zero_add]
  rfl

theorem ofDigitChars_lt_pow {cs : List Char} (h : ∀ c ∈ cs, c.isDigit) :
    Nat.ofDigitChars 10 cs 0 < Nat.pow 10 cs.length := by
  induction cs with
  | nil => simp
  | cons c cs ih =>
    obtain ⟨hc, hcs⟩ := List.forall_mem_cons.1 h
    have hdigit : c.toNat - 48 ≤ 9 := by
      have := toNat_of_isDigit hc
      omega
    have hunits := Nat.mul_le_mul_left (Nat.pow 10 cs.length) hdigit
    have := ih hcs
    have hpow : Nat.pow 10 (c :: cs).length = Nat.pow 10 cs.length * 10 := rfl
    rw [ofDigitChars_cons, hpow]
    omega

theorem ofDigitChars_lt {as bs : List Char} (ha : ∀ c ∈ as, c.isDigit) (hb : ∀ c ∈ bs, c.isDigit)
    (hlength : as.length = bs.length)
    (h : as.map (fun c => UInt8.ofNat c.toNat) < bs.map fun c => UInt8.ofNat c.toNat) :
    Nat.ofDigitChars 10 as 0 < Nat.ofDigitChars 10 bs 0 := by
  induction as generalizing bs with
  | nil =>
    cases bs with
    | nil => exact absurd h (List.lt_irrefl _)
    | cons b bs => simp at hlength
  | cons a as ih =>
    cases bs with
    | nil => simp at hlength
    | cons b bs =>
      obtain ⟨ha, has⟩ := List.forall_mem_cons.1 ha
      obtain ⟨hb, hbs⟩ := List.forall_mem_cons.1 hb
      have hlength : as.length = bs.length := Nat.succ.inj hlength
      rw [ofDigitChars_cons, ofDigitChars_cons, ← hlength]
      rcases List.cons_lt_cons_iff.1 h with hlt | ⟨heq, hlt⟩
      · have hlt : a.toNat < b.toNat := by
          rw [← toNat_byte_of_isDigit ha, ← toNat_byte_of_isDigit hb]
          exact hlt
        have hdigit : a.toNat - 48 + 1 ≤ b.toNat - 48 := by
          have := toNat_of_isDigit ha
          omega
        have hunits := Nat.mul_le_mul_left (Nat.pow 10 as.length) hdigit
        have := ofDigitChars_lt_pow has
        rw [Nat.mul_add] at hunits
        omega
      · have heq : a.toNat = b.toNat := by
          have := congrArg UInt8.toNat heq
          rwa [toNat_byte_of_isDigit ha, toNat_byte_of_isDigit hb] at this
        have := ih has hbs hlength hlt
        rw [heq]
        omega

end SchemaRegistry.Text
