import SchemaRegistry.Text.Bytes

namespace SchemaRegistry.Utf8

/-- The first place where a byte string is not UTF-8: how many bytes before it are, and how many
bytes are at fault, or `none` when the last character is cut short by the end. -/
structure Fault where
  validLength : Nat
  badLength : Option Nat
  deriving DecidableEq, Repr

def Fault.message (f : Fault) : String :=
  match f.badLength with
  | some n => s!"invalid utf-8 sequence of {n} bytes from index {f.validLength}"
  | none => s!"incomplete utf-8 byte sequence from index {f.validLength}"

def isContinuation (b : UInt8) : Bool := 0x80 ≤ b && b ≤ 0xBF

/-- Whether `b` may follow the leading byte `a` of a character of three or four bytes. -/
def mayFollow (a b : UInt8) : Bool :=
  if a = 0xE0 then 0xA0 ≤ b && b ≤ 0xBF
  else if a = 0xED then 0x80 ≤ b && b ≤ 0x9F
  else if a = 0xF0 then 0x90 ≤ b && b ≤ 0xBF
  else if a = 0xF4 then 0x80 ≤ b && b ≤ 0x8F
  else isContinuation b

def faultFrom (n : Nat) : Bytes → Option Fault
  | [] => none
  | a :: rest =>
    if a < 0x80 then faultFrom (n + 1) rest
    else if a < 0xC2 || 0xF4 < a then some ⟨n, some 1⟩
    else match rest with
      | [] => some ⟨n, none⟩
      | b :: rest =>
        if a < 0xE0 then
          if isContinuation b then faultFrom (n + 2) rest else some ⟨n, some 1⟩
        else if !mayFollow a b then some ⟨n, some 1⟩
        else match rest with
          | [] => some ⟨n, none⟩
          | c :: rest =>
            if !isContinuation c then some ⟨n, some 2⟩
            else if a < 0xF0 then faultFrom (n + 3) rest
            else match rest with
              | [] => some ⟨n, none⟩
              | d :: rest =>
                if isContinuation d then faultFrom (n + 4) rest else some ⟨n, some 3⟩

def decode (bs : Bytes) : Except Fault String :=
  match ofUtf8? bs with
  | some s => .ok s
  | none => .error ((faultFrom 0 bs).getD ⟨0, none⟩)

@[simp] theorem decode_utf8 (s : String) : decode (utf8 s) = .ok s := by simp [decode]

theorem badLength_pos {n k : Nat} {bs : Bytes} {f : Fault} (h : faultFrom n bs = some f)
    (hk : f.badLength = some k) : 0 < k := by
  fun_induction faultFrom n bs <;> grind

theorem length_drop_lt {bs : Bytes} {f : Fault} {k : Nat} (h : decode bs = .error f)
    (hk : f.badLength = some k) : (bs.drop (f.validLength + k)).length < bs.length := by
  cases bs with
  | nil => cases h
  | cons a rest =>
    simp only [decode] at h
    split at h <;> cases h
    cases hfault : faultFrom 0 (a :: rest) with
    | none =>
      rw [hfault] at hk
      cases hk
    | some f =>
      rw [hfault] at hk
      have hpos : 0 < k := badLength_pos hfault hk
      simp only [List.length_drop, List.length_cons]
      omega

/-- The text with a replacement character for each run of bytes at fault. -/
def lossy (bs : Bytes) : String :=
  match h : decode bs with
  | .ok s => s
  | .error f =>
    let front := (ofUtf8? (bs.take f.validLength)).getD "" ++ "\uFFFD"
    match hk : f.badLength with
    | none => front
    | some k =>
      have := length_drop_lt h hk
      front ++ lossy (bs.drop (f.validLength + k))
termination_by bs.length
decreasing_by assumption

@[simp] theorem lossy_utf8 (s : String) : lossy (utf8 s) = s := by
  rw [lossy]
  split
  · next h => exact (Except.ok.inj ((decode_utf8 s).symm.trans h)).symm
  · next h => cases (decode_utf8 s).symm.trans h

example : lossy [0x61, 0xFF, 0x62, 0xE2, 0x82] = "a\uFFFDb\uFFFD" := by cbv

end SchemaRegistry.Utf8
