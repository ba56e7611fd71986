import SchemaRegistry.Json.Typed
import SchemaRegistry.Json.Writer

namespace SchemaRegistry.Json

theorem utf8EncodeChar_ofNat :
    ∀ n < 32, String.utf8EncodeChar (Char.ofNat n) = [UInt8.ofNat n] := by
  decide

theorem hexValue4?_hexPair (b : UInt8) :
    hexValue4? 48 48 (UInt8.ofNat (Bytes.hexDigit (b.toNat / 16)).toNat)
      (UInt8.ofNat (Bytes.hexDigit (b.toNat % 16)).toNat) = some b.toNat := by
  have hzero : Bytes.hexValue? 48 = some 0 := rfl
  have hhigh := Bytes.hexValue?_hexDigit (b.toNat / 16)
    (Nat.div_lt_of_lt_mul (by have := b.toNat_lt; omega))
  have hlow := Bytes.hexValue?_hexDigit (b.toNat % 16) (Nat.mod_lt _ (by decide))
  simp only [hexValue4?, hzero, hhigh, hlow, Option.bind_eq_bind, Option.bind_some]
  congr 1
  omega

theorem stringBytes_escaped (acc : Bytes) {e c : UInt8} (he : e ≠ 117) (h : escaped? e = some c)
    (rest : Bytes) : stringBytes acc (92 :: e :: rest) = stringBytes (c :: acc) rest := by
  rw [stringBytes.eq_def]
  simp [he, h]

theorem stringBytes_plain (acc : Bytes) {b : UInt8} (hquote : b ≠ 34) (hslash : b ≠ 92)
    (hplain : ¬ b < 32) (rest : Bytes) :
    stringBytes acc (b :: rest) = stringBytes (b :: acc) rest := by
  rw [stringBytes.eq_def]
  simp [hquote, hslash, hplain]

theorem stringBytes_number (acc : Bytes) {a b c d : UInt8} {n : Nat}
    (h : hexValue4? a b c d = some n) (hleading : isLeading n = false)
    (htrailing : isTrailing n = false) (rest : Bytes) :
    stringBytes acc (92 :: 117 :: a :: b :: c :: d :: rest) =
      stringBytes (pushCodePoint n acc) rest := by
  rw [stringBytes.eq_def]
  simp only [h, hleading, htrailing]
  rfl

theorem stringBytes_halves (acc : Bytes) {a b c d a' b' c' d' : UInt8} {n m : Nat}
    (h : hexValue4? a b c d = some n) (h' : hexValue4? a' b' c' d' = some m)
    (hleading : isLeading n = true) (hnot : isTrailing n = false) (htrailing : isTrailing m = true)
    (rest : Bytes) :
    stringBytes acc (92 :: 117 :: a :: b :: c :: d :: 92 :: 117 :: a' :: b' :: c' :: d' :: rest) =
      stringBytes (pushCodePoint (0x10000 + (n - 0xD800) * 0x400 + (m - 0xDC00)) acc) rest := by
  rw [stringBytes.eq_def]
  simp only [h, h', hleading, hnot, htrailing]
  rfl

theorem stringBytes_numbered (acc : Bytes) {b : UInt8} (h : b < 32) (rest : Bytes) :
    stringBytes acc
        ([92, 117, 48, 48] ++ (Bytes.hexPair b).map (fun c => UInt8.ofNat c.toNat) ++ rest) =
      stringBytes (b :: acc) rest := by
  have hlt : b.toNat < 32 := h
  have hleading : isLeading b.toNat = false := by simp [isLeading]; omega
  have htrailing : isTrailing b.toNat = false := by simp [isTrailing]; omega
  have hread := stringBytes_number acc (hexValue4?_hexPair b) hleading htrailing rest
  rwa [pushCodePoint, utf8EncodeChar_ofNat _ hlt, UInt8.ofNat_toNat] at hread

theorem stringBytes_escapeByte (acc : Bytes) (b : UInt8) (rest : Bytes) :
    stringBytes acc (escapeByte b ++ rest) = stringBytes (b :: acc) rest := by
  unfold escapeByte
  split
  · next h =>
    have h : b = 34 ∨ b = 92 := by simpa using h
    rcases h with rfl | rfl <;> exact stringBytes_escaped acc (by decide) rfl rest
  · next h =>
    have ⟨hquote, hslash⟩ : b ≠ 34 ∧ b ≠ 92 := by simpa using h
    repeat' split
    · next h => exact h ▸ stringBytes_escaped acc (by decide) rfl rest
    · next h => exact h ▸ stringBytes_escaped acc (by decide) rfl rest
    · next h => exact h ▸ stringBytes_escaped acc (by decide) rfl rest
    · next h => exact h ▸ stringBytes_escaped acc (by decide) rfl rest
    · next h => exact h ▸ stringBytes_escaped acc (by decide) rfl rest
    · next h => exact stringBytes_numbered acc h rest
    · next h => exact stringBytes_plain acc hquote hslash h rest

theorem stringBytes_flatMap (acc bs rest : Bytes) :
    stringBytes acc (bs.flatMap escapeByte ++ 34 :: rest) = .ok (acc.reverse ++ bs, rest) := by
  induction bs generalizing acc with
  | nil =>
    rw [List.flatMap_nil, List.nil_append, List.append_nil, stringBytes.eq_def]
    rfl
  | cons b bs ih =>
    rw [List.flatMap_cons, List.append_assoc, stringBytes_escapeByte, ih, List.reverse_cons,
      List.append_assoc]
    rfl

theorem writeString_append (s : String) (rest : Bytes) :
    writeString s ++ rest = 34 :: ((utf8 s).flatMap escapeByte ++ 34 :: rest) := by
  simp [writeString]

theorem readStringBody_write (s : String) (rest : Bytes) :
    readStringBody ((utf8 s).flatMap escapeByte ++ 34 :: rest) = .ok (s, rest) := by
  simp only [readStringBody, stringBytes_flatMap, bind, Except.bind, List.reverse_nil,
    List.nil_append, Utf8.decode_utf8]

theorem readString_write (expected s : String) (rest : Bytes) :
    readString expected (writeString s ++ rest) = .ok (s, rest) := by
  rw [writeString_append]
  exact readStringBody_write s rest

def writeMembers : (first : Bool) → List (String × Bytes) → Bytes
  | _, [] => []
  | first, m :: ms =>
    (if first then [] else [44]) ++ (writeString m.1 ++ 58 :: m.2) ++ writeMembers false ms

theorem writeMembers_cons_append (first : Bool) (m : String × Bytes) (ms : List (String × Bytes))
    (s : Bytes) :
    writeMembers first (m :: ms) ++ s =
      (if first then [] else [44]) ++
        (writeString m.1 ++ 58 :: (m.2 ++ (writeMembers false ms ++ s))) := by
  simp [writeMembers]

theorem writeObject_eq (ms : List (String × Bytes)) :
    writeObject ms = 123 :: (writeMembers true ms ++ [125]) := by
  have hmore (m : String × Bytes) (ms : List (String × Bytes)) :
      List.intercalate [44] ((m :: ms).map fun m => writeString m.1 ++ 58 :: m.2) =
        (writeString m.1 ++ 58 :: m.2) ++ writeMembers false ms := by
    induction ms generalizing m with
    | nil => simp [writeMembers, List.intercalate]
    | cons n ms ih =>
      have hrest := ih n
      rw [List.map_cons] at hrest
      rw [List.map_cons, List.map_cons, List.intercalate_cons_cons, hrest]
      simp [writeMembers]
  cases ms with
  | nil => rfl
  | cons m ms =>
    rw [writeObject, hmore]
    rfl

theorem length_le_writeMembers (first : Bool) (ms : List (String × Bytes)) :
    ms.length ≤ (writeMembers first ms).length := by
  induction ms generalizing first with
  | nil => exact Nat.le_refl _
  | cons m ms ih =>
    have := ih false
    simp only [writeMembers, List.length_append, List.length_cons]
    omega

theorem readColon_write (s : Bytes) : readColon (58 :: s) = .ok s := rfl

theorem nextMember_write (first : Bool) (name : String) (rest : Bytes) :
    nextMember first ((if first then [] else [44]) ++ (writeString name ++ 58 :: rest)) =
      .ok (.name ((utf8 name).flatMap escapeByte ++ 34 :: 58 :: rest)) := by
  rw [writeString_append]
  cases first <;> rfl

theorem nextMember_brace (first : Bool) (s : Bytes) :
    nextMember first (125 :: s) = .ok (.close s) := by
  cases first <;> rfl

theorem readMembers_write (expected : String) (ms : List (String × String)) (first : Bool)
    (rest : Bytes) {fuel : Nat} (h : ms.length < fuel) :
    readMembers (readString expected) fuel first
      (writeMembers first (ms.map fun m => (m.1, writeString m.2)) ++ 125 :: rest) =
        .ok (ms, rest) := by
  induction ms generalizing first fuel with
  | nil =>
    cases fuel with
    | zero => cases h
    | succ fuel =>
      simp only [List.map_nil, writeMembers, List.nil_append, readMembers, nextMember_brace, bind,
        Except.bind]
      rfl
  | cons m ms ih =>
    cases fuel with
    | zero => cases h
    | succ fuel =>
      simp only [List.map_cons, writeMembers_cons_append, readMembers, nextMember_write, bind,
        Except.bind, readStringBody_write, readColon_write, readString_write,
        ih false (Nat.lt_of_succ_lt_succ h)]
      rfl

theorem readStringMap_writeObject (ms : List (String × String)) :
    readAll readStringMap (writeObject (ms.map fun m => (m.1, writeString m.2))) = .ok ms := by
  have hfuel : ms.length <
      (writeMembers true (ms.map fun m : String × String => (m.1, writeString m.2)) ++
        [125]).length + 1 := by
    have := length_le_writeMembers true (ms.map fun m : String × String => (m.1, writeString m.2))
    rw [List.length_map] at this
    rw [List.length_append]
    omega
  have hread : readStringMap (writeObject (ms.map fun m => (m.1, writeString m.2))) =
      .ok (ms, []) := by
    rw [writeObject_eq]
    exact readMembers_write "a string" ms true [] hfuel
  simp only [readAll, hread, bind, Except.bind]
  rfl

end SchemaRegistry.Json
