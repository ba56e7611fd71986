import SchemaRegistry.Proofs.Recovery

/-!
Bytes that have been changed.  A checksum tells one changed byte, whatever stands around it, so a
frame is not read any more once a byte of it outside of its lengths is another.  A file with such a
frame yields the records in front of it.
-/

namespace SchemaRegistry

namespace Crc32c

theorem and_one_eq_one {s : UInt32} : s &&& 1 = 1 ↔ s.toNat % 2 = 1 := by
  rw [← UInt32.toNat_inj, UInt32.toNat_and]
  exact Nat.and_one_is_mod _ ▸ Iff.rfl

theorem toNat_shiftRight_one (s : UInt32) : (s >>> 1).toNat = s.toNat / 2 := by
  simp [UInt32.toNat_shiftRight, Nat.shiftRight_eq_div_pow]

theorem testBit_shiftRight_one (s : UInt32) : (s >>> 1).toNat.testBit 31 = false := by
  rw [toNat_shiftRight_one]
  exact Nat.testBit_lt_two_pow (Nat.div_lt_of_lt_mul s.toNat_lt)

theorem testBit_shift (s : UInt32) : (shift s).toNat.testBit 31 = decide (s &&& 1 = 1) := by
  rw [shift]
  split
  · next h =>
    rw [UInt32.toNat_xor, Nat.testBit_xor, testBit_shiftRight_one, decide_eq_true h]
    decide
  · next h => rw [testBit_shiftRight_one, decide_eq_false h]

theorem shift_injective {s t : UInt32} (h : shift s = shift t) : s = t := by
  have hodd : s &&& 1 = 1 ↔ t &&& 1 = 1 := by
    have hbit := congrArg (·.toNat.testBit 31) h
    simpa [testBit_shift] using hbit
  have hhalf : s >>> 1 = t >>> 1 := by
    rw [shift, shift] at h
    split at h
    · next hs =>
      rw [if_pos (hodd.1 hs)] at h
      exact (UInt32.xor_left_inj _).1 h
    · next hs =>
      rw [if_neg (mt hodd.2 hs)] at h
      exact h
  have hhalf := congrArg UInt32.toNat hhalf
  rw [toNat_shiftRight_one, toNat_shiftRight_one] at hhalf
  rw [and_one_eq_one, and_one_eq_one] at hodd
  apply UInt32.toNat_inj.1
  omega

theorem step_inj {s t : UInt32} {b c : UInt8} :
    step s b = step t c ↔ s ^^^ b.toUInt32 = t ^^^ c.toUInt32 := by
  refine ⟨fun h => ?_, fun h => by rw [step, step, h]⟩
  iterate 8 replace h := shift_injective h
  exact h

theorem remainder_injective {s t : UInt32} {bs : Bytes} (h : remainder s bs = remainder t bs) :
    s = t := by
  induction bs generalizing s t with
  | nil => exact h
  | cons b bs ih => exact (UInt32.xor_left_inj _).1 (step_inj.1 (ih h))

theorem checksum_set {bs : Bytes} {i : Nat} (hi : i < bs.length) {b : UInt8} (hb : bs[i] ≠ b) :
    checksum (bs.set i b) ≠ checksum bs := by
  intro h
  have hsplit : bs = bs.take i ++ bs[i] :: bs.drop (i + 1) := by
    rw [List.getElem_cons_drop, List.take_append_drop]
  rw [List.set_eq_take_append_cons_drop, if_pos hi] at h
  conv at h => rhs; rw [hsplit]
  simp only [checksum, remainder_append, UInt32.xor_left_inj] at h
  have hstep : step _ b = step _ bs[i] := remainder_injective h
  have hbyte := (UInt32.xor_right_inj _).1 (step_inj.1 hstep)
  exact hb (UInt8.toUInt32_inj.1 hbyte).symm

/-- The check value of CRC-32C. -/
example : checksum (utf8 "123456789") = 0xE3069283 := by decide +kernel

end Crc32c

namespace Frame

section Field

variable {data : Bytes} {i start width : Nat} {b : UInt8}

theorem field_set_of_outside (h : i < start ∨ start + width ≤ i) :
    field (data.set i b) start width = field data start width := by
  rw [field, field, List.drop_set]
  split
  · rfl
  · rw [List.take_set, List.set_eq_of_length_le]
    rw [List.length_take]
    omega

theorem field_set_ne (hlow : start ≤ i) (hhigh : i < start + width)
    (hdata : start + width ≤ data.length) (hb : data[i] ≠ b) :
    field (data.set i b) start width ≠ field data start width := by
  intro h
  have hslice := congrArg (Bytes.ofNat width) h
  rw [ofNat_field (by rwa [List.length_set]), ofNat_field hdata] at hslice
  have hbyte := congrArg (·[i - start]?) hslice
  have hplace : start + (i - start) = i := by omega
  have hwidth : i - start < width := by omega
  simp only [List.getElem?_take_of_lt hwidth, List.getElem?_drop, hplace] at hbyte
  rw [List.getElem?_set_self (by omega), List.getElem?_eq_getElem (by omega)] at hbyte
  exact hb (Option.some.inj hbyte).symm

end Field

section Damage

variable {e : Entry} {i : Nat} {b : UInt8}

theorem checksum_set_ne (hi : i < (bytes e).length) (hb : (bytes e)[i] ≠ b) (rest : Bytes) :
    (Crc32c.checksum (((bytes e ++ rest).set i b).take
        (headerSize + (utf8 e.key).length + e.value.length))).toNat ≠
      field ((bytes e ++ rest).set i b) (headerSize + (utf8 e.key).length + e.value.length)
        checksumSize := by
  have hdata : i < (bytes e ++ rest).length := by
    rw [List.length_append]
    omega
  have hbyte : (bytes e ++ rest)[i] ≠ b := by rwa [List.getElem_append_left hi]
  have hsize := length_bytes e
  have hbody := length_body e.offset (utf8 e.key) e.value
  have hstored := field_checksum e rest
  have hcovered := take_bytes_append e rest
  generalize headerSize + (utf8 e.key).length + e.value.length = bodyEnd at *
  rw [List.take_set, hcovered]
  by_cases hend : i < bodyEnd
  · have hcover : i < (body e.offset (utf8 e.key) e.value).length := by omega
    have hbyte : (body e.offset (utf8 e.key) e.value)[i] ≠ b := by
      simpa only [← hcovered, List.getElem_take] using hbyte
    rw [field_set_of_outside (.inl hend), hstored, ne_eq, UInt32.toNat_inj]
    exact Crc32c.checksum_set hcover hbyte
  · rw [List.set_eq_of_length_le (by omega), ← hstored]
    exact (field_set_ne (by omega) (by omega) (by rw [List.length_append]; omega) hbyte).symm

theorem decode_set (h : Fits e) (hi : i < (bytes e).length) (hplace : i < 12 ∨ 18 ≤ i)
    (hb : (bytes e)[i] ≠ b) (rest : Bytes) :
    decode ((bytes e).set i b ++ rest) = .error (if i < 4 then .invalidMagic else .checksum) := by
  obtain ⟨⟨hk, hv⟩, -⟩ := h
  have hlen := length_bytes e
  rw [← List.set_append_left _ _ hi]
  have hdata : ((bytes e ++ rest).set i b).length = (bytes e).length + rest.length := by
    rw [List.length_set, List.length_append]
  have hheader := (bytes_append e rest).trans (body_append ..)
  have hsmall : ¬ ((bytes e ++ rest).set i b).length < leastSize := by
    rw [hdata, leastSize]
    omega
  rw [decode, if_neg hsmall]
  by_cases hmagic : i < 4
  · have hplace : i < (bytes e ++ rest).length := by
      rw [List.length_append]
      omega
    have hfour : 0 + 4 ≤ (bytes e ++ rest).length := by
      rw [List.length_append, hlen, headerSize]
      omega
    have hbyte : (bytes e ++ rest)[i] ≠ b := by rwa [List.getElem_append_left hi]
    have hchanged := field_set_ne (Nat.zero_le i) (Nat.zero_add 4 ▸ hmagic) hfour hbyte
    rw [hheader, field_magic, ← hheader] at hchanged
    rw [if_pos hchanged, if_pos hmagic]
  -- the magic number and the lengths are as they were
  have hmagic' : field ((bytes e ++ rest).set i b) 0 4 = magic := by
    rw [field_set_of_outside (by omega), hheader, field_magic]
  have hkey : field ((bytes e ++ rest).set i b) 12 2 = (utf8 e.key).length := by
    rw [field_set_of_outside (by omega), hheader, field_keyLength _ hk]
  have hvalue : field ((bytes e ++ rest).set i b) 14 4 = e.value.length := by
    rw [field_set_of_outside (by omega), hheader, field_valueLength _ hv]
  have htrunc : ¬ ((bytes e ++ rest).set i b).length <
      headerSize + (utf8 e.key).length + e.value.length + checksumSize := by
    rw [hdata, hlen]
    omega
  simp only [hmagic', hkey, hvalue, ne_eq, not_true_eq_false, ↓reduceIte, htrunc, if_neg hmagic]
  rw [if_pos (checksum_set_ne hi hb rest)]

theorem longest_of_fault {rs : List (String × Bytes)} (hs : ∀ r ∈ rs, Short r)
    (hn : rs.length ≤ offsets) {rest : Bytes} {fault : Fault} (hrest : decode rest = .error fault) :
    Longest (fileOf rs ++ rest) rs := by
  refine Front.longest ⟨hs, hn, List.prefix_append ..⟩ fun e n h => ?_
  rw [hrest] at h
  cases h

theorem fileOf_append_cons (before after : List (String × Bytes)) (r : String × Bytes) :
    fileOf (before ++ r :: after) = fileOf before ++ (bytes ⟨before.length, r.1, r.2⟩ ++
      file (MemoryLog.numbered (before.length + 1) after)) := by
  simp [fileOf, MemoryLog.numbered_append, MemoryLog.numbered]

end Damage

end Frame

namespace StreamFile

open SchemaRegistry.Frame (Longest fileOf)

/-- A frame in which one byte outside of its lengths has been changed is not read, whatever follows
it.  A file with this frame yields the records in front of it, and the next record takes its
place. -/
theorem recovered_damaged {e : Entry} {frame : Bytes} (hframe : Frame.encode? e = some frame)
    (ho : e.offset < Frame.offsets) {i : Nat} (hi : i < frame.length) (hplace : i < 12 ∨ 18 ≤ i)
    {b : UInt8} (hb : frame[i] ≠ b) :
    (∀ rest, Frame.decode (frame.set i b ++ rest) =
      .error (if i < 4 then .invalidMagic else .checksum)) ∧
    ∀ before after front data, before.length = e.offset →
      (before ++ (e.key, e.value) :: after).length ≤ Frame.offsets →
      Frame.encodeFrom? 0 before = some front →
      Frame.encodeFrom? 0 (before ++ (e.key, e.value) :: after) = some data →
      let damaged := data.set (front.length + i) b
      Recovered damaged before ∧
      ∀ (l : SegmentLog) (stream : String), l.limits = .none →
        SegmentLog.nameFits (Stem.fileName stream) = true → l.opened.get? stream = none →
        l.nodes.get? (Stem.fileName stream) = some (.file damaged) →
        ∀ key value, Frame.Short (key, value) →
          ∃ l', l.append stream key value = (.ok e.offset, l') ∧
          l'.nodes.get? (Stem.fileName stream) =
            some (.file (fileOf (before ++ [(key, value)]))) := by
  have hshort : Frame.Short (e.key, e.value) := by
    by_cases h : Frame.Short (e.key, e.value)
    · exact h
    · rw [Frame.encode?_of_not_short h] at hframe
      cases hframe
  rw [Frame.encode?_of_short hshort] at hframe
  cases hframe
  have hdecode := Frame.decode_set ⟨hshort, ho⟩ hi hplace hb
  refine ⟨hdecode, ?_⟩
  intro before after front data hoffset hfew hfront hdata damaged
  obtain ⟨hs, rfl⟩ := Frame.encodeFrom?_eq_some.1 hfront
  obtain ⟨-, rfl⟩ := Frame.encodeFrom?_eq_some.1 hdata
  have hdamaged : damaged = fileOf before ++ ((Frame.bytes e).set i b ++
      Frame.file (MemoryLog.numbered (before.length + 1) after)) := by
    have he : (⟨before.length, e.key, e.value⟩ : Entry) = e := by rw [hoffset]
    simp only [damaged, Frame.fileOf_append_cons, he]
    rw [List.set_append_right _ _ (Nat.le_add_right ..), Nat.add_sub_cancel_left,
      List.set_append_left _ _ hi]
  have hfew : before.length ≤ Frame.offsets := by
    rw [List.length_append] at hfew
    omega
  have hlongest : Longest damaged before := by
    rw [hdamaged]
    exact Frame.longest_of_fault hs hfew (hdecode _)
  refine ⟨recovered_of_longest hlongest, ?_⟩
  intro l stream hlimits hname hclosed hfile key value hr
  have happend := SegmentLog.append_of_longest hlongest hlimits hname hclosed hfile hr
  rw [hoffset] at happend
  exact ⟨_, happend, by simp [SegmentLog.store]⟩

theorem recovered_damaged_offset :
    let e : Entry := ⟨1, "k", [2]⟩
    let data := fileOf [("k", [1]), ("k", [2]), ("k", [3])]
    let l :=
      SegmentLog.ofNodes ((∅ : Table Node).insert (Stem.fileName "s") (.file (data.set 28 0))) 0
    Frame.encode? e = some (Frame.bytes e) ∧ (Frame.bytes e)[4]? = some 1 ∧
    Frame.encodeFrom? 0 [("k", [1])] = some (fileOf [("k", [1])]) ∧
    Frame.encodeFrom? 0 [("k", [1]), ("k", [2]), ("k", [3])] = some data ∧
    Frame.decode ((Frame.bytes e).set 4 0 ++ [7]) = .error .checksum ∧
    Recovered (data.set 28 0) [("k", [1])] ∧
    ∃ l', l.append "s" "k" [4] = (.ok 1, l') ∧
      l'.nodes.get? (Stem.fileName "s") = some (.file (fileOf [("k", [1]), ("k", [4])])) := by
  intro e data l
  have hframe : Frame.encode? e = some (Frame.bytes e) := rfl
  have hfront : Frame.encodeFrom? 0 [("k", [1])] = some (fileOf [("k", [1])]) := by decide +kernel
  have hdata : Frame.encodeFrom? 0 [("k", [1]), ("k", [2]), ("k", [3])] = some data := by
    decide +kernel
  obtain ⟨hdecode, hfile⟩ :=
    recovered_damaged hframe (by decide) (i := 4) (by decide +kernel) (by decide)
      (b := 0) (by decide +kernel)
  obtain ⟨hrecovered, happend⟩ := hfile [("k", [1])] [("k", [3])] _ _ rfl (by decide) hfront hdata
  have hplace : (fileOf [("k", [1])]).length + 4 = 28 := by decide +kernel
  rw [hplace] at hrecovered happend
  exact ⟨hframe, by decide +kernel, hfront, hdata, hdecode [7], hrecovered,
    happend l "s" rfl (by decide +kernel) rfl (by simp [l, SegmentLog.ofNodes]) "k" [4] (by decide)⟩

end StreamFile

end SchemaRegistry
