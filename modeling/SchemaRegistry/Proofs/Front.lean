import SchemaRegistry.Proofs.Frame

/-!
Fronts of a file that are files of frames.  They continue each other, so one of them is the longest,
and a scan finds it, whatever the bytes of the file are.
-/

namespace SchemaRegistry.Frame

def encodeFrom? : (n : Nat) → List (String × Bytes) → Option Bytes
  | _, [] => some []
  | n, (key, value) :: rs => do
    let frame ← encode? ⟨n, key, value⟩
    let rest ← encodeFrom? (n + 1) rs
    return frame ++ rest

theorem encodeFrom?_of_short {n : Nat} {rs : List (String × Bytes)} (h : ∀ r ∈ rs, Short r) :
    encodeFrom? n rs = some (file (MemoryLog.numbered n rs)) := by
  induction rs generalizing n with
  | nil => rfl
  | cons r rs ih =>
    obtain ⟨hr, hrs⟩ := List.forall_mem_cons.1 h
    have hencode : encode? ⟨n, r.1, r.2⟩ = some (bytes ⟨n, r.1, r.2⟩) := encode?_of_short hr
    simp [encodeFrom?, hencode, ih hrs, MemoryLog.numbered]

theorem short_of_encodeFrom? {n : Nat} {rs : List (String × Bytes)} {bs : Bytes}
    (h : encodeFrom? n rs = some bs) : ∀ r ∈ rs, Short r := by
  induction rs generalizing n bs with
  | nil => exact fun _ hr => absurd hr List.not_mem_nil
  | cons r rs ih =>
    simp only [encodeFrom?, Option.bind_eq_bind, Option.bind_eq_some_iff] at h
    obtain ⟨frame, hframe, rest, hrest, -⟩ := h
    refine List.forall_mem_cons.2 ⟨?_, ih hrest⟩
    by_cases hr : Short r
    · exact hr
    · rw [encode?_of_not_short hr] at hframe
      cases hframe

theorem encodeFrom?_eq_some {rs : List (String × Bytes)} {bs : Bytes} :
    encodeFrom? 0 rs = some bs ↔ (∀ r ∈ rs, Short r) ∧ fileOf rs = bs := by
  constructor
  · intro h
    have hs := short_of_encodeFrom? h
    rw [encodeFrom?_of_short hs] at h
    exact ⟨hs, Option.some.inj h⟩
  · rintro ⟨hs, rfl⟩
    exact encodeFrom?_of_short hs

structure Front (data : Bytes) (rs : List (String × Bytes)) : Prop where
  short : ∀ r ∈ rs, Short r
  few : rs.length ≤ offsets
  isPrefix : fileOf rs <+: data

theorem isPrefix_of_file {n : Nat} {rs rs' : List (String × Bytes)} {data : Bytes}
    (hs : ∀ e ∈ MemoryLog.numbered n rs, Fits e) (hs' : ∀ e ∈ MemoryLog.numbered n rs', Fits e)
    (h : file (MemoryLog.numbered n rs) <+: data) (h' : file (MemoryLog.numbered n rs') <+: data)
    (hle : rs.length ≤ rs'.length) : rs <+: rs' := by
  induction rs generalizing n rs' data with
  | nil => exact List.nil_prefix
  | cons r rs ih =>
    cases rs' with
    | nil => simp at hle
    | cons r' rs' =>
      simp only [MemoryLog.numbered, List.forall_mem_cons, file_cons] at hs hs' h h'
      -- both first frames are what is read at the front
      obtain ⟨rest, rfl⟩ := h
      obtain ⟨rest', hrest⟩ := h'
      rw [List.append_assoc, List.append_assoc] at hrest
      have hdecode := decode_bytes_append hs'.1 (file (MemoryLog.numbered (n + 1) rs') ++ rest')
      rw [hrest, decode_bytes_append hs.1, Except.ok.injEq, Prod.mk.injEq,
        Entry.mk.injEq] at hdecode
      obtain ⟨⟨-, hkey, hvalue⟩, -⟩ := hdecode
      obtain rfl : r = r' := Prod.ext hkey hvalue
      have hrest := List.append_cancel_left hrest
      exact List.cons_prefix_cons.2 ⟨rfl, ih hs.2 hs'.2 (List.prefix_append ..) ⟨rest', hrest⟩
        (Nat.le_of_succ_le_succ hle)⟩

section

variable {data : Bytes} {rs rs' : List (String × Bytes)}

theorem fileOf_isPrefix (h : rs <+: rs') : fileOf rs <+: fileOf rs' := by
  obtain ⟨rest, rfl⟩ := h
  rw [fileOf, fileOf, MemoryLog.numbered_append, file_append]
  exact List.prefix_append ..

theorem Front.fits (h : Front data rs) : ∀ e ∈ MemoryLog.numbered 0 rs, Fits e :=
  fits_numbered h.short (by simpa using h.few)

theorem Front.of_isPrefix (h : Front data rs') (hle : rs <+: rs') : Front data rs where
  short r hr := h.short r (hle.subset hr)
  few := Nat.le_trans hle.length_le h.few
  isPrefix := (fileOf_isPrefix hle).trans h.isPrefix

theorem Front.isPrefix_of_length_le (h : Front data rs) (h' : Front data rs')
    (hle : rs.length ≤ rs'.length) : rs <+: rs' :=
  isPrefix_of_file h.fits h'.fits h.isPrefix h'.isPrefix hle

theorem front_take {n : Nat} :
    Front (data.take n) rs ↔ Front data rs ∧ (fileOf rs).length ≤ n := by
  constructor
  · intro h
    have := List.prefix_take_iff.1 h.isPrefix
    exact ⟨⟨h.short, h.few, this.1⟩, this.2⟩
  · rintro ⟨h, hn⟩
    exact ⟨h.short, h.few, List.prefix_take_iff.2 ⟨h.isPrefix, hn⟩⟩

/-- These records are all that the data starts with. -/
structure Longest (data : Bytes) (rs : List (String × Bytes)) : Prop where
  front : Front data rs
  longest : ∀ rs', Front data rs' → rs' <+: rs

theorem Longest.fileOf (h : Longest data rs) : Longest (fileOf rs) rs where
  front := ⟨h.front.short, h.front.few, List.prefix_refl _⟩
  longest rs' h' := h.longest rs' ⟨h'.short, h'.few, h'.isPrefix.trans h.front.isPrefix⟩

/-- A cut leaves the records whose frames lie wholly before it. -/
theorem Longest.take (h : Longest data rs) {n : Nat} (h' : Longest (data.take n) rs') :
    rs' = rs.take rs'.length ∧
      ∀ i < rs.length, i < rs'.length ↔ (Frame.fileOf (rs.take (i + 1))).length ≤ n := by
  have hrs : rs' <+: rs := h.longest _ (front_take.1 h'.front).1
  refine ⟨List.prefix_iff_eq_take.1 hrs, fun i hi => ?_⟩
  have hlength : (rs.take (i + 1)).length = i + 1 := by
    rw [List.length_take]
    omega
  constructor
  · intro hi
    have hle : rs.take (i + 1) <+: rs' := by
      rw [List.prefix_iff_eq_take.1 hrs, List.prefix_take_iff]
      exact ⟨List.take_prefix .., by omega⟩
    exact Nat.le_trans (fileOf_isPrefix hle).length_le (front_take.1 h'.front).2
  · intro hn
    have := h'.longest _ (front_take.2 ⟨h.front.of_isPrefix (List.take_prefix ..), hn⟩)
    have := this.length_le
    omega

theorem short_of_fits {n : Nat} (h : ∀ e ∈ MemoryLog.numbered n rs, Fits e) :
    ∀ r ∈ rs, Short r := by
  intro r hr
  rw [← MemoryLog.map_record_numbered n rs] at hr
  obtain ⟨e, he, rfl⟩ := List.mem_map.1 hr
  exact (h e he).short

theorem length_le_of_fits (h : ∀ e ∈ MemoryLog.numbered 0 rs, Fits e) : rs.length ≤ offsets := by
  rcases Nat.eq_zero_or_pos rs.length with hzero | hpos
  · rw [hzero]
    exact Nat.zero_le _
  -- the last record has the largest offset
  have hlast : rs.length - 1 ∈ (MemoryLog.numbered 0 rs).map (·.offset) := by
    rw [MemoryLog.map_offset_numbered, List.mem_range'_1]
    omega
  obtain ⟨e, he, hoffset⟩ := List.mem_map.1 hlast
  have := (h e he).offset
  omega

def Ends (offset : Nat) (data : Bytes) : Prop := ∀ e n, decode data = .ok (e, n) → e.offset ≠ offset

theorem ends_or_next (offset : Nat) (data : Bytes) :
    Ends offset data ∨ ∃ key value rest, Fits ⟨offset, key, value⟩ ∧
      data = bytes ⟨offset, key, value⟩ ++ rest := by
  cases hdecode : decode data with
  | error fault =>
    refine .inl fun e n h => ?_
    rw [hdecode] at h
    cases h
  | ok found =>
    obtain ⟨⟨o, key, value⟩, n⟩ := found
    by_cases ho : o = offset
    · subst ho
      obtain ⟨hfits, ⟨rest, rfl⟩, -⟩ := isPrefix_of_decode hdecode
      exact .inr ⟨key, value, rest, hfits, rfl⟩
    · refine .inl fun e n h => ?_
      rw [hdecode] at h
      cases h
      exact ho

theorem scanFrom_of_ends {found : Scan} (h : Ends found.positions.length data) (fuel : Nat) :
    scanFrom fuel found data = found := by
  cases fuel with
  | zero => rfl
  | succ fuel =>
    simp only [scanFrom]
    split
    · rfl
    · next e n hdecode => exact if_neg (h e n hdecode)

theorem scanFrom_bytes {found : Scan} {e : Entry} (he : Fits e)
    (ho : e.offset = found.positions.length) (fuel : Nat) (rest : Bytes) :
    scanFrom (fuel + 1) found (bytes e ++ rest) =
      scanFrom fuel ⟨found.positions ++ [found.size], found.size + (bytes e).length⟩ rest := by
  simp only [scanFrom, decode_bytes_append he, ho, ↓reduceIte, List.drop_left]

theorem scanFrom_stops (found : Scan) {fuel : Nat} (hfuel : data.length ≤ fuel) :
    ∃ (rs : List (String × Bytes)) (rest : Bytes),
      let es := MemoryLog.numbered found.positions.length rs
      data = file es ++ rest ∧ (∀ e ∈ es, Fits e) ∧
      scanFrom fuel found data =
        ⟨found.positions ++ startsFrom found.size es, found.size + (file es).length⟩ ∧
      Ends (found.positions.length + rs.length) rest := by
  induction fuel generalizing found data with
  | zero =>
    obtain rfl := List.eq_nil_of_length_eq_zero (Nat.le_zero.1 hfuel)
    refine ⟨[], [], rfl, by simp [MemoryLog.numbered], ?_, fun _ _ h => by cases h⟩
    simp [MemoryLog.numbered, scanFrom, startsFrom]
  | succ fuel ih =>
    rcases ends_or_next found.positions.length data with hends | ⟨key, value, data, hfits, rfl⟩
    · refine ⟨[], data, rfl, by simp [MemoryLog.numbered], ?_, hends⟩
      simp [scanFrom_of_ends hends, MemoryLog.numbered, startsFrom]
    generalize hframe : bytes ⟨found.positions.length, key, value⟩ = frame at hfuel
    have hsize : 0 < frame.length := by
      rw [← hframe, length_bytes, headerSize]
      omega
    rw [List.length_append] at hfuel
    have hless : data.length ≤ fuel := by omega
    obtain ⟨rs, rest, rfl, hrs, hscan, hrest⟩ :=
      ih ⟨found.positions ++ [found.size], found.size + frame.length⟩ hless
    simp only [List.length_append, List.length_singleton] at hrs hscan hrest ⊢
    refine ⟨(key, value) :: rs, rest, ?_, List.forall_mem_cons.2 ⟨hfits, hrs⟩, ?_, ?_⟩
    · simp [MemoryLog.numbered, hframe]
    · rw [← hframe, scanFrom_bytes hfits rfl, hframe, hscan]
      simp [MemoryLog.numbered, startsFrom, hframe, Nat.add_assoc]
    · rwa [List.length_cons, Nat.add_comm rs.length, ← Nat.add_assoc]

theorem Front.longest {rest : Bytes} (h : Front (Frame.fileOf rs ++ rest) rs)
    (hrest : Ends rs.length rest) : Longest (Frame.fileOf rs ++ rest) rs where
  front := h
  longest rs' h' := by
    by_cases hle : rs'.length ≤ rs.length
    · exact h'.isPrefix_of_length_le h hle
    exfalso
    -- a longer front has another frame where this one ends
    obtain ⟨more, rfl⟩ := h.isPrefix_of_length_le h' (by omega)
    cases more with
    | nil => simp at hle
    | cons r more =>
      have hfits := h'.fits
      have hprefix := h'.isPrefix
      rw [MemoryLog.numbered_append, List.forall_mem_append, Nat.zero_add, MemoryLog.numbered,
        List.forall_mem_cons] at hfits
      rw [Frame.fileOf, MemoryLog.numbered_append, file_append, Nat.zero_add,
        List.prefix_append_right_inj, MemoryLog.numbered, file_cons] at hprefix
      have hdecode := decode_eq_ok.2 ⟨hfits.2.1, (List.prefix_append ..).trans hprefix, rfl⟩
      exact hrest _ _ hdecode rfl

theorem exists_longest (data : Bytes) :
    ∃ rs, Longest data rs ∧ scan data = ⟨startsOf rs, (Frame.fileOf rs).length⟩ := by
  obtain ⟨rs, rest, rfl, hfits, hscan, hrest⟩ := scanFrom_stops ⟨[], 0⟩ (Nat.le_refl data.length)
  simp only [List.length_nil, Nat.zero_add, List.nil_append] at hfits hscan hrest
  have hfront : Front (Frame.fileOf rs ++ rest) rs :=
    ⟨short_of_fits hfits, length_le_of_fits hfits, List.prefix_append ..⟩
  exact ⟨rs, hfront.longest hrest, hscan⟩

theorem Longest.scan (h : Longest data rs) :
    scan data = ⟨startsOf rs, (Frame.fileOf rs).length⟩ := by
  obtain ⟨rs', h', hscan⟩ := exists_longest data
  have hle := h.longest _ h'.front
  have hge := h'.longest _ h.front
  rwa [hle.eq_of_length_le hge.length_le] at hscan

end

end SchemaRegistry.Frame
