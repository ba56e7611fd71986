import SchemaRegistry.Proofs.MemoryLog
import SchemaRegistry.Proofs.Utf8

/-!
Laws of frames.  A frame is read back whatever follows it, no proper part of it is a frame, and
nothing but a frame is read as an entry.  So a file of frames is scanned up to its last whole frame:
what was torn off behind that is not seen.
-/

namespace SchemaRegistry

namespace Bytes

theorem toNat_lt (bs : Bytes) : toNat bs < Nat.pow 256 bs.length := by
  induction bs with
  | nil => decide
  | cons b bs ih =>
    have hb := b.toNat_lt
    have hpow : Nat.pow 256 (bs.length + 1) = Nat.pow 256 bs.length * 256 := rfl
    simp only [toNat, List.length_cons, hpow]
    omega

theorem ofNat_toNat (bs : Bytes) : ofNat bs.length (toNat bs) = bs := by
  induction bs with
  | nil => rfl
  | cons b bs ih =>
    have hb := b.toNat_lt
    have hlow : UInt8.ofNat (b.toNat + 256 * toNat bs) = b := by
      apply UInt8.toNat_inj.1
      simp only [UInt8.toNat_ofNat']
      omega
    have hhigh : (b.toNat + 256 * toNat bs) / 256 = toNat bs := by omega
    simp only [toNat, List.length_cons, ofNat, hlow, hhigh, ih]

end Bytes

namespace Frame

def bytes (e : Entry) : Bytes := withChecksum (body e.offset (utf8 e.key) e.value)

def Short (r : String × Bytes) : Prop := (utf8 r.1).length < 0x10000 ∧ r.2.length < 0x100000000

instance : DecidablePred Short := fun r =>
  inferInstanceAs (Decidable ((utf8 r.1).length < 0x10000 ∧ r.2.length < 0x100000000))

def offsets : Nat := 0x10000000000000000

structure Fits (e : Entry) : Prop where
  short : Short (e.key, e.value)
  offset : e.offset < offsets

theorem encode?_of_short {e : Entry} (h : Short (e.key, e.value)) : encode? e = some (bytes e) :=
  if_pos h

theorem encode?_of_not_short {e : Entry} (h : ¬ Short (e.key, e.value)) : encode? e = none :=
  if_neg h

theorem length_header (o k v : Nat) : (header o k v).length = headerSize := by
  simp [header, headerSize]

theorem length_body (o : Nat) (k v : Bytes) :
    (body o k v).length = headerSize + k.length + v.length := by
  simp [body, length_header, Nat.add_assoc]

theorem length_bytes (e : Entry) :
    (bytes e).length = headerSize + (utf8 e.key).length + e.value.length + checksumSize := by
  simp [bytes, withChecksum, length_body, checksumSize]

theorem field_append {a b : Bytes} {start width : Nat} (c : Bytes) (ha : a.length = start)
    (hb : b.length = width) : field (a ++ (b ++ c)) start width = Bytes.toNat b := by
  subst ha hb
  simp [field]

section Header

variable {o k v : Nat} (rest : Bytes)

theorem field_magic : field (header o k v ++ rest) 0 4 = magic := by
  simp only [header, List.append_assoc, field, List.drop_zero]
  rw [List.take_left' (Bytes.length_ofNat ..)]
  rfl

theorem field_offset (h : o < offsets) : field (header o k v ++ rest) 4 8 = o := by
  simp only [header, List.append_assoc]
  rw [field_append _ (Bytes.length_ofNat ..) (Bytes.length_ofNat ..)]
  exact Bytes.toNat_ofNat h

theorem field_keyLength (h : k < 0x10000) : field (header o k v ++ rest) 12 2 = k := by
  rw [header, List.append_assoc, List.append_assoc,
    field_append _ (by simp) (Bytes.length_ofNat ..)]
  exact Bytes.toNat_ofNat h

theorem field_valueLength (h : v < 0x100000000) : field (header o k v ++ rest) 14 4 = v := by
  rw [header, List.append_assoc, field_append _ (by simp) (Bytes.length_ofNat ..)]
  exact Bytes.toNat_ofNat h

end Header

theorem field_take {data : Bytes} {n start width : Nat} (h : start + width ≤ n) :
    field (data.take n) start width = field data start width := by
  simp only [field, List.drop_take, List.take_take]
  rw [Nat.min_eq_left (by omega)]

theorem body_append (o : Nat) (k v rest : Bytes) :
    body o k v ++ rest = header o k.length v.length ++ (k ++ (v ++ rest)) := by
  simp [body]

theorem bytes_append (e : Entry) (rest : Bytes) :
    bytes e ++ rest = body e.offset (utf8 e.key) e.value ++
      (Bytes.ofNat checksumSize
        (Crc32c.checksum (body e.offset (utf8 e.key) e.value)).toNat ++ rest) := by
  simp [bytes, withChecksum, checksumSize]

theorem take_bytes_append (e : Entry) (rest : Bytes) :
    (bytes e ++ rest).take (headerSize + (utf8 e.key).length + e.value.length) =
      body e.offset (utf8 e.key) e.value := by
  rw [bytes_append, List.take_left' (length_body ..)]

theorem field_checksum (e : Entry) (rest : Bytes) :
    field (bytes e ++ rest) (headerSize + (utf8 e.key).length + e.value.length) checksumSize =
      (Crc32c.checksum (body e.offset (utf8 e.key) e.value)).toNat := by
  rw [bytes_append, field_append _ (length_body ..) (Bytes.length_ofNat ..)]
  exact Bytes.toNat_ofNat (by simpa [checksumSize] using UInt32.toNat_lt _)

theorem decode_bytes_append {e : Entry} (h : Fits e) (rest : Bytes) :
    decode (bytes e ++ rest) = .ok (e, (bytes e).length) := by
  obtain ⟨⟨hk, hv⟩, ho⟩ := h
  have hlen := length_bytes e
  have hsmall : ¬ (bytes e ++ rest).length < leastSize := by
    simp only [List.length_append, hlen, leastSize]; omega
  rw [decode, if_neg hsmall]
  -- every field is read from the place where the header puts it
  have hheader := (bytes_append e rest).trans (body_append ..)
  have hmagic : field (bytes e ++ rest) 0 4 = magic := by rw [hheader, field_magic]
  have hkey : field (bytes e ++ rest) 12 2 = (utf8 e.key).length := by
    rw [hheader, field_keyLength _ hk]
  have hvalue : field (bytes e ++ rest) 14 4 = e.value.length := by
    rw [hheader, field_valueLength _ hv]
  have hoffset : field (bytes e ++ rest) 4 8 = e.offset := by rw [hheader, field_offset _ ho]
  simp only [hmagic, hkey, hvalue, hoffset, ne_eq, not_true_eq_false, ↓reduceIte]
  have htrunc : ¬ (bytes e ++ rest).length <
      headerSize + (utf8 e.key).length + e.value.length + checksumSize := by
    simp only [List.length_append, hlen]; omega
  rw [if_neg htrunc]
  -- the checksum is that of the bytes in front of it
  simp only [take_bytes_append, field_checksum, not_true_eq_false, ↓reduceIte]
  have htext : ((bytes e ++ rest).drop headerSize).take (utf8 e.key).length = utf8 e.key := by
    rw [hheader, List.drop_left' (length_header ..), List.take_left' rfl]
  have hrest : (body e.offset (utf8 e.key) e.value).drop (headerSize + (utf8 e.key).length) =
      e.value := by
    rw [body, List.drop_left' (by simp [length_header])]
  simp only [htext, Utf8.decode_utf8, hrest, hlen]

theorem decode_take_bytes {e : Entry} (h : Fits e) {n : Nat} (hn : n < (bytes e).length) :
    decode ((bytes e).take n) = .error (if n < leastSize then .tooSmall else .truncated) := by
  obtain ⟨⟨hk, hv⟩, -⟩ := h
  have hlen : ((bytes e).take n).length = n := by simp; omega
  rw [decode, hlen]
  by_cases hsmall : n < leastSize
  · simp [hsmall]
  simp only [hsmall, ↓reduceIte]
  -- the header is still there, and it asks for more than is left
  have hheader := (bytes_append e []).trans (body_append ..)
  rw [List.append_nil] at hheader
  have hn' : 22 ≤ n := by simpa [leastSize, headerSize, checksumSize] using hsmall
  rw [field_take (by omega), field_take (by omega), field_take (by omega), hheader, field_magic,
    field_keyLength _ hk, field_valueLength _ hv]
  rw [length_bytes] at hn
  simp [hn]

theorem length_slice {data : Bytes} {start width : Nat} (h : start + width ≤ data.length) :
    ((data.drop start).take width).length = width := by
  rw [List.length_take, List.length_drop]
  omega

theorem ofNat_field {data : Bytes} {start width : Nat} (h : start + width ≤ data.length) :
    Bytes.ofNat width (field data start width) = (data.drop start).take width := by
  have := Bytes.ofNat_toNat ((data.drop start).take width)
  rwa [length_slice h] at this

theorem field_lt (data : Bytes) (start width : Nat) : field data start width < Nat.pow 256 width :=
  Nat.lt_of_lt_of_le (Bytes.toNat_lt _) (Nat.pow_le_pow_right (by decide) (List.length_take_le ..))

theorem header_fields {data : Bytes} (h : headerSize ≤ data.length)
    (hmagic : field data 0 4 = magic) :
    header (field data 4 8) (field data 12 2) (field data 14 4) = data.take headerSize := by
  rw [headerSize] at h
  rw [header, ← hmagic, ofNat_field (by omega), ofNat_field (by omega), ofNat_field (by omega),
    ofNat_field (by omega), List.drop_zero, ← List.take_add, ← List.take_add, ← List.take_add]
  rfl

theorem body_fields {data : Bytes} {k v : Nat} (h : headerSize + k + v ≤ data.length)
    (hmagic : field data 0 4 = magic) (hk : field data 12 2 = k) (hv : field data 14 4 = v) :
    body (field data 4 8) ((data.drop headerSize).take k)
      ((data.take (headerSize + k + v)).drop (headerSize + k)) =
        data.take (headerSize + k + v) := by
  have hkey : ((data.drop headerSize).take k).length = k := length_slice (by omega)
  have hvalue : ((data.take (headerSize + k + v)).drop (headerSize + k)).length = v := by
    rw [List.length_drop, List.length_take]
    omega
  have hlong : headerSize ≤ data.length := by omega
  have hheader := header_fields hlong hmagic
  rw [hk, hv] at hheader
  rw [body, hkey, hvalue, hheader, ← List.take_add, List.drop_take, Nat.add_sub_cancel_left,
    ← List.take_add]

theorem withChecksum_take {data : Bytes} {n : Nat} (h : n + checksumSize ≤ data.length)
    (hcrc : (Crc32c.checksum (data.take n)).toNat = field data n checksumSize) :
    withChecksum (data.take n) = data.take (n + checksumSize) := by
  have hfield := ofNat_field h
  rw [withChecksum, hcrc, List.take_add, ← hfield]
  rfl

theorem isPrefix_of_decode {data : Bytes} {e : Entry} {n : Nat} (h : decode data = .ok (e, n)) :
    Fits e ∧ bytes e <+: data ∧ n = (bytes e).length := by
  simp only [decode] at h
  split at h
  · cases h
  split at h
  · cases h
  next hmagic =>
  split at h
  · cases h
  next hlong =>
  split at h
  · cases h
  next hcrc =>
  split at h
  · cases h
  next key hkey =>
  rw [Except.ok.injEq, Prod.mk.injEq] at h
  obtain ⟨rfl, rfl⟩ := h
  rw [ne_eq, Decidable.not_not] at hmagic hcrc
  rw [Utf8.decode_eq_ok] at hkey
  have hk : field data 12 2 < 0x10000 := field_lt ..
  have hv : field data 14 4 < 0x100000000 := field_lt ..
  have ho : field data 4 8 < offsets := field_lt ..
  generalize hkn : field data 12 2 = k at hk hlong hcrc hkey ⊢
  generalize hvn : field data 14 4 = v at hv hlong hcrc ⊢
  rw [Nat.not_lt] at hlong
  generalize hvalue : (data.take (headerSize + k + v)).drop (headerSize + k) = value
  have hshort : Short (key, value) := by
    refine ⟨Nat.lt_of_le_of_lt ?_ hk, Nat.lt_of_le_of_lt ?_ hv⟩
    · rw [hkey]
      exact List.length_take_le ..
    · rw [← hvalue, List.length_drop]
      exact Nat.sub_le_iff_le_add'.2 (List.length_take_le ..)
  have hbytes : bytes ⟨field data 4 8, key, value⟩ =
      data.take (headerSize + k + v + checksumSize) := by
    rw [← withChecksum_take hlong hcrc, ← body_fields (by omega) hmagic hkn hvn, ← hkey, hvalue]
    rfl
  refine ⟨⟨hshort, ho⟩, ?_, ?_⟩
  · rw [hbytes]
    exact List.take_prefix ..
  · rw [hbytes, List.length_take, Nat.min_eq_left hlong]

theorem decode_eq_ok {data : Bytes} {e : Entry} {n : Nat} :
    decode data = .ok (e, n) ↔ Fits e ∧ bytes e <+: data ∧ n = (bytes e).length := by
  refine ⟨isPrefix_of_decode, ?_⟩
  rintro ⟨hfits, ⟨rest, rfl⟩, rfl⟩
  exact decode_bytes_append hfits rest

/-- Entries and frames are one to one.  Every entry whose lengths fit has a frame, which is read
back in front of anything and not if it is cut; and whatever is read has been the frame of what it
is read as. -/
theorem encode?_decode :
    (∀ e, encode? e = none ↔ 0xFFFF < (utf8 e.key).length ∨ 0xFFFFFFFF < e.value.length) ∧
    (∀ e, e.offset < offsets → (utf8 e.key).length ≤ 0xFFFF → e.value.length ≤ 0xFFFFFFFF →
      ∃ frame, encode? e = some frame ∧
        (∀ rest, decode (frame ++ rest) = .ok (e, frame.length)) ∧
        ∀ n < frame.length, ∃ fault, decode (frame.take n) = .error fault) ∧
    ∀ data e n, decode data = .ok (e, n) →
      e.offset < offsets ∧ n ≤ data.length ∧ encode? e = some (data.take n) := by
  refine ⟨fun e => ?_, fun e ho hk hv => ?_, fun data e n h => ?_⟩
  · simp only [encode?, ite_eq_right_iff, reduceCtorEq, imp_false]
    omega
  · have hfits : Fits e := ⟨⟨Nat.lt_succ_of_le hk, Nat.lt_succ_of_le hv⟩, ho⟩
    exact ⟨bytes e, encode?_of_short hfits.short, decode_bytes_append hfits,
      fun n hn => ⟨_, decode_take_bytes hfits hn⟩⟩
  · obtain ⟨hfits, hprefix, rfl⟩ := isPrefix_of_decode h
    refine ⟨hfits.offset, hprefix.length_le, ?_⟩
    rw [encode?_of_short hfits.short, ← List.prefix_iff_eq_take.1 hprefix]

theorem encode?_decode_largest :
    let e : Entry := ⟨0xFFFFFFFFFFFFFFFF, "é", [0, 255]⟩
    e.offset < offsets ∧ (utf8 e.key).length = 2 ∧
    (∃ frame, encode? e = some frame ∧ frame.length = 26 ∧
      decode (frame ++ [1]) = .ok (e, 26) ∧ (∃ fault, decode (frame.take 25) = .error fault) ∧
      encode? e = some ((frame ++ [1]).take 26)) ∧
    encode? ⟨0, "k", List.replicate 0x100000000 0⟩ = none := by
  intro e
  obtain ⟨hnone, hsome, hback⟩ := encode?_decode
  obtain ⟨frame, hencode, hread, hcut⟩ := hsome e (by decide) (by decide) (by decide)
  have hlength : frame.length = 26 := by
    have hframe : some frame = some (bytes e) := hencode.symm
    rw [Option.some.inj hframe]
    decide +kernel
  rw [hlength] at hread hcut
  refine ⟨by decide, by decide, ⟨frame, hencode, hlength, hread [1], hcut 25 (by decide),
    (hback _ _ _ (hread [1])).2.2⟩, (hnone _).2 (.inr ?_)⟩
  rw [List.length_replicate]
  decide

def file (es : List Entry) : Bytes := es.flatMap bytes

def startsFrom : (start : Nat) → List Entry → List Nat
  | _, [] => []
  | start, e :: es => start :: startsFrom (start + (bytes e).length) es

@[simp] theorem file_nil : file [] = [] := rfl

@[simp] theorem file_cons (e : Entry) (es : List Entry) : file (e :: es) = bytes e ++ file es := rfl

@[simp] theorem file_append (es fs : List Entry) : file (es ++ fs) = file es ++ file fs :=
  List.flatMap_append

theorem take_file (es : List Entry) (n : Nat) :
    (file es).take (file (es.take n)).length = file (es.take n) := by
  conv => lhs; arg 2; rw [← List.take_append_drop n es, file_append]
  exact List.take_left' rfl

theorem drop_file (es : List Entry) (n : Nat) :
    (file es).drop (file (es.take n)).length = file (es.drop n) := by
  conv => lhs; arg 2; rw [← List.take_append_drop n es, file_append]
  exact List.drop_left' rfl

@[simp] theorem length_startsFrom (start : Nat) (es : List Entry) :
    (startsFrom start es).length = es.length := by
  induction es generalizing start with
  | nil => rfl
  | cons e es ih => simp [startsFrom, ih]

theorem startsFrom_append (start : Nat) (es fs : List Entry) :
    startsFrom start (es ++ fs) =
      startsFrom start es ++ startsFrom (start + (file es).length) fs := by
  induction es generalizing start with
  | nil => rfl
  | cons e es ih => simp [startsFrom, ih, Nat.add_assoc]

theorem getElem?_startsFrom {es : List Entry} {i : Nat} (start : Nat) (h : i < es.length) :
    (startsFrom start es)[i]? = some (start + (file (es.take i)).length) := by
  induction es generalizing start i with
  | nil => simp at h
  | cons e es ih =>
    cases i with
    | zero => simp [startsFrom]
    | succ i =>
      simp only [startsFrom, List.getElem?_cons_succ]
      rw [ih _ (by simpa using h)]
      simp [Nat.add_assoc]

theorem length_le_file (es : List Entry) : es.length ≤ (file es).length := by
  induction es with
  | nil => exact Nat.le_refl _
  | cons e es ih =>
    have := length_bytes e
    simp only [file_cons, List.length_append, List.length_cons, checksumSize] at *
    omega

theorem fits_numbered {n : Nat} {rs : List (String × Bytes)} (hs : ∀ r ∈ rs, Short r)
    (hn : n + rs.length ≤ offsets) : ∀ e ∈ MemoryLog.numbered n rs, Fits e := by
  intro e he
  obtain ⟨hmem, -, hlt⟩ := MemoryLog.mem_numbered he
  exact ⟨hs _ hmem, Nat.lt_of_lt_of_le hlt hn⟩

abbrev fileOf (rs : List (String × Bytes)) : Bytes := file (MemoryLog.numbered 0 rs)

abbrev startsOf (rs : List (String × Bytes)) : List Nat := startsFrom 0 (MemoryLog.numbered 0 rs)

theorem scanFrom_file (found : Scan) (fuel : Nat) {rs : List (String × Bytes)} {rest : Bytes}
    {fault : Fault} (hes : ∀ e ∈ MemoryLog.numbered found.positions.length rs, Fits e)
    (hrest : decode rest = .error fault) (hfuel : rs.length ≤ fuel) :
    scanFrom fuel found (file (MemoryLog.numbered found.positions.length rs) ++ rest) =
      ⟨found.positions ++ startsFrom found.size (MemoryLog.numbered found.positions.length rs),
        found.size + (file (MemoryLog.numbered found.positions.length rs)).length⟩ := by
  induction rs generalizing found fuel with
  | nil =>
    cases fuel with
    | zero => simp [scanFrom, MemoryLog.numbered, startsFrom]
    | succ fuel => simp [scanFrom, MemoryLog.numbered, startsFrom, hrest]
  | cons r rs ih =>
    cases fuel with
    | zero => simp at hfuel
    | succ fuel =>
      obtain ⟨positions, size⟩ := found
      simp only [MemoryLog.numbered, List.forall_mem_cons] at hes
      simp only [MemoryLog.numbered, file_cons, List.append_assoc, scanFrom,
        decode_bytes_append hes.1, ↓reduceIte, List.drop_left]
      have := ih ⟨positions ++ [size], size + (bytes ⟨positions.length, r.1, r.2⟩).length⟩ fuel
        (by simpa using hes.2) (by simpa using hfuel)
      simp only [List.length_append, List.length_cons, List.length_nil, Nat.zero_add] at this
      rw [this]
      simp [startsFrom, Nat.add_assoc]

/-- A file of frames is found as it was written, whatever was torn off behind it. -/
theorem scan_fileOf {rs : List (String × Bytes)} {rest : Bytes} {fault : Fault}
    (hs : ∀ r ∈ rs, Short r) (hn : rs.length ≤ offsets) (hrest : decode rest = .error fault) :
    scan (fileOf rs ++ rest) = ⟨startsOf rs, (fileOf rs).length⟩ := by
  have hfile : rs.length ≤ (fileOf rs).length := by
    simpa using length_le_file (MemoryLog.numbered 0 rs)
  have hfuel : rs.length ≤ (fileOf rs ++ rest).length := by
    rw [List.length_append]; omega
  have := scanFrom_file ⟨[], 0⟩ _ (fits_numbered hs (by simpa using hn)) hrest hfuel
  simpa [scan] using this

end Frame

end SchemaRegistry
