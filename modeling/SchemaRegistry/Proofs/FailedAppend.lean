import SchemaRegistry.Proofs.SegmentLog

/-!
Appends that fail.  Whatever part of a frame has reached the file, and whether or not it could be
cut off again, the records acknowledged before are found when the file is opened again.  At most one
record can be found behind them: the one whose append could not be rolled back.
-/

namespace SchemaRegistry.StreamFile

open SchemaRegistry.Frame (Short fileOf startsOf)

/-- How the write of a frame goes wrong: how many bytes of it reach the file, whether the others
stay in the buffer, and whether the rollback fails too.  All of the frame may be in the file. -/
structure Trouble where
  cause : FileError
  written : Nat
  kept : Bool
  rollback : Option Stuck
  deriving DecidableEq, Repr

def Trouble.rest (t : Trouble) (frame : Bytes) : Bytes :=
  if t.kept then frame.drop t.written else []

def Trouble.fault (t : Trouble) (frame : Bytes) : WriteFault :=
  ⟨t.cause, t.written, t.rest frame, t.rollback⟩

theorem exists_fault_of_limits {l : Limits} {capacity : Nat} {content frame : Bytes} {n : Nat}
    {w : WriteFault} (h : l.writeFault capacity content frame n = some w) :
    ∃ t : Trouble, w = t.fault frame := by
  refine ⟨⟨w.cause, w.written, decide (frame.length < capacity), w.rollback⟩, ?_⟩
  simp only [Limits.writeFault] at h
  split at h
  · cases h
  · cases h
    simp only [Trouble.fault, Trouble.rest, decide_eq_true_eq]

structure Attempt where
  key : String
  value : Bytes
  trouble : Option Trouble
  deriving DecidableEq, Repr

namespace Attempt

def record (a : Attempt) : String × Bytes := (a.key, a.value)

def fault (a : Attempt) (frame : Bytes) : Option WriteFault := a.trouble.map (·.fault frame)

def smooth (a : Attempt) : Attempt := { a with trouble := none }

end Attempt

structure Session where
  file : StreamFile
  content : Bytes
  /-- The records that were in the file and those acknowledged since. -/
  acknowledged : List (String × Bytes)
  stuck : Option (String × Bytes)
  deriving DecidableEq, Repr

namespace Session

def opened (rs : List (String × Bytes)) : Session :=
  let (file, content) := ofContent (fileOf rs)
  ⟨file, content, rs, none⟩

def offer (s : Session) (a : Attempt) : Except Refusal Nat × Session :=
  match s.file.append s.content a.key a.value a.fault with
  | (.ok offset, file, content) =>
    (.ok offset, { s with file, content, acknowledged := s.acknowledged ++ [a.record] })
  | (.error e, file, content) =>
    let stuck := if file.refused && !s.file.refused then some a.record else s.stuck
    (.error e, { s with file, content, stuck })

def after (s : Session) (attempts : List Attempt) : Session :=
  attempts.foldl (fun s a => (s.offer a).2) s

def closed (s : Session) (flushed : Nat) : Bytes := s.content ++ s.file.buffered.take flushed

def clean (rs : List (String × Bytes)) : Session := ⟨holding rs, fileOf rs, rs, none⟩

/-- Behind the records, a part of the frame of `r` is in the file and `rest` of it in the buffer. -/
def broken (rs : List (String × Bytes)) (r : String × Bytes) (written : Nat) (rest : Bytes) :
    Session :=
  ⟨{ holding rs with refused := true, buffered := rest },
    fileOf rs ++ (Frame.bytes ⟨rs.length, r.1, r.2⟩).take written, rs, some r⟩

theorem opened_eq {rs : List (String × Bytes)} (hs : ∀ r ∈ rs, Short r)
    (hn : rs.length ≤ Frame.offsets) : opened rs = clean rs := by
  simp [opened, clean, ofContent_fileOf hs hn]

section Offer

variable (rs : List (String × Bytes)) {a : Attempt} {t : Trouble}

theorem offer_smooth (h : Short a.record) (ht : a.trouble = none) :
    (clean rs).offer a = (.ok rs.length, clean (rs ++ [a.record])) := by
  have hfault : a.fault (Frame.bytes ⟨rs.length, a.key, a.value⟩) = none := by
    simp [Attempt.fault, ht]
  simp only [offer, clean, append_of_short rs a.fault h, hfault, write_holding]
  rfl

theorem offer_tooLarge (h : ¬ Short a.record) :
    (clean rs).offer a = (.error (.tooLarge ((utf8 a.key).length + a.value.length)), clean rs) := by
  simp only [offer, clean, append_of_not_short rs a.fault h]
  simp [holding]

theorem offer_undone (h : Short a.record) (ht : a.trouble = some t) (hr : t.rollback = none) :
    (clean rs).offer a = (.error (.file t.cause), clean rs) := by
  have hfault (frame : Bytes) : a.fault frame = some (t.fault frame) := by simp [Attempt.fault, ht]
  have hwrite (frame : Bytes) : (holding rs).write (fileOf rs) frame (some (t.fault frame)) =
      (.error t.cause, holding rs, fileOf rs) :=
    write_undone rs frame hr
  simp only [offer, clean, append_of_short rs a.fault h, hfault, hwrite]
  rfl

theorem offer_stuck (h : Short a.record) (ht : a.trouble = some t) (hr : t.rollback ≠ none) :
    ∃ rest, (clean rs).offer a = (.error (.file t.cause), broken rs a.record t.written rest) ∧
      (rest = [] ∨ rest = (Frame.bytes ⟨rs.length, a.key, a.value⟩).drop t.written) := by
  have hfault (frame : Bytes) : a.fault frame = some (t.fault frame) := by simp [Attempt.fault, ht]
  simp only [offer, clean, append_of_short rs a.fault h, hfault, write, Trouble.fault]
  cases hk : t.rollback with
  | none => exact absurd hk hr
  | some k =>
    cases k with
    | noHandle =>
      refine ⟨t.rest (Frame.bytes ⟨rs.length, a.key, a.value⟩), rfl, ?_⟩
      unfold Trouble.rest
      split
      · exact .inr rfl
      · exact .inl rfl
    | cannotCut => exact ⟨[], rfl, .inl rfl⟩

theorem offer_refused {s : Session} (h : s.file.refused = true) (a : Attempt) :
    s.offer a = (.error .inconsistent, s) := by
  simp [offer, append_of_refused a.fault h, h]

end Offer

/-- What appends keep: either no append is stuck, or one is and the file takes no more. -/
inductive Intact : Session → Prop
  | clean {rs : List (String × Bytes)} : (∀ r ∈ rs, Short r) → Intact (clean rs)
  | broken {rs : List (String × Bytes)} {r : String × Bytes} {written : Nat} {rest : Bytes} :
    (∀ r ∈ rs, Short r) → Short r →
    (rest = [] ∨ rest = (Frame.bytes ⟨rs.length, r.1, r.2⟩).drop written) →
    Intact (broken rs r written rest)

theorem short_concat {rs : List (String × Bytes)} {r : String × Bytes} (hs : ∀ r ∈ rs, Short r)
    (hr : Short r) : ∀ x ∈ rs ++ [r], Short x :=
  List.forall_mem_append.2 ⟨hs, List.forall_mem_singleton.2 hr⟩

theorem intact_offer {s : Session} (h : s.Intact) (a : Attempt) : (s.offer a).2.Intact := by
  cases h with
  | @clean rs hs =>
    by_cases ha : Short a.record
    · cases ht : a.trouble with
      | none =>
        rw [offer_smooth rs ha ht]
        exact .clean (short_concat hs ha)
      | some t =>
        by_cases hr : t.rollback = none
        · rw [offer_undone rs ha ht hr]
          exact .clean hs
        · obtain ⟨rest, hoffer, hrest⟩ := offer_stuck rs ha ht hr
          rw [hoffer]
          exact .broken hs ha hrest
    · rw [offer_tooLarge rs ha]
      exact .clean hs
  | broken hs hr hrest =>
    rw [offer_refused rfl]
    exact .broken hs hr hrest

theorem intact_after {s : Session} (h : s.Intact) (attempts : List Attempt) :
    (s.after attempts).Intact := by
  induction attempts generalizing s with
  | nil => exact h
  | cons a attempts ih => exact ih (intact_offer h a)

theorem length_acknowledged_offer (s : Session) (a : Attempt) :
    (s.offer a).2.acknowledged.length ≤ s.acknowledged.length + 1 := by
  unfold offer
  split <;> simp

theorem length_acknowledged_after (s : Session) (attempts : List Attempt) :
    (s.after attempts).acknowledged.length ≤ s.acknowledged.length + attempts.length := by
  induction attempts generalizing s with
  | nil => exact Nat.le_refl _
  | cons a attempts ih =>
    have hfirst := length_acknowledged_offer s a
    have hrest := ih (s.offer a).2
    simp only [after, List.foldl_cons, List.length_cons] at *
    omega

theorem after_refused {s : Session} (h : s.file.refused = true) (attempts : List Attempt) :
    s.after attempts = s := by
  induction attempts with
  | nil => rfl
  | cons a attempts ih => rw [after, List.foldl_cons, offer_refused h]; exact ih

theorem take_content {s : Session} (h : s.Intact) :
    s.content.take s.file.size = fileOf s.acknowledged ∧
      s.file.positions = startsOf s.acknowledged := by
  cases h with
  | clean => exact ⟨List.take_of_length_le (Nat.le_refl _), rfl⟩
  | broken => exact ⟨List.take_left' rfl, rfl⟩

theorem eq_clean {s : Session} (h : s.Intact) (hf : s.file.refused = false) :
    s = clean s.acknowledged ∧ ∀ r ∈ s.acknowledged, Short r := by
  cases h with
  | clean hs => exact ⟨rfl, hs⟩
  | broken => exact absurd hf (by simp [broken])

theorem closed_broken {rs : List (String × Bytes)} {r : String × Bytes} {written : Nat}
    {rest : Bytes} (hrest : rest = [] ∨ rest = (Frame.bytes ⟨rs.length, r.1, r.2⟩).drop written)
    (flushed : Nat) :
    ∃ n, (broken rs r written rest).closed flushed =
      fileOf rs ++ (Frame.bytes ⟨rs.length, r.1, r.2⟩).take n := by
  -- what is flushed continues what was written
  rcases hrest with rfl | rfl
  · exact ⟨written, by simp [closed, broken]⟩
  · exact ⟨written + flushed, by simp [closed, broken, List.take_add]⟩

def Recovers (content : Bytes) (rs : List (String × Bytes)) : Prop :=
  ofContent content = (holding rs, fileOf rs) ∧
  ∀ stream, SegmentLog.decodeRange stream rs.length 0 (fileOf rs) = .ok (MemoryLog.numbered 0 rs)

theorem recovers_of_eq {content : Bytes} {rs : List (String × Bytes)} (hs : ∀ r ∈ rs, Short r)
    (hn : rs.length ≤ Frame.offsets) (h : ofContent content = (holding rs, fileOf rs)) :
    Recovers content rs := by
  refine ⟨h, fun stream => ?_⟩
  have hfits : ∀ e ∈ MemoryLog.numbered 0 rs, Frame.Fits e :=
    Frame.fits_numbered hs (by rwa [Nat.zero_add])
  have := SegmentLog.decodeRange_file stream hfits []
  rwa [List.append_nil] at this

theorem recovers_closed {s : Session} (h : s.Intact) (hn : s.acknowledged.length < Frame.offsets)
    (flushed : Nat) : ∃ extra, (extra = [] ∨ ∃ r, s.stuck = some r ∧ extra = [r]) ∧
      Recovers (s.closed flushed) (s.acknowledged ++ extra) := by
  cases h with
  | @clean rs hs =>
    have hle := Nat.le_of_lt hn
    refine ⟨[], .inl rfl, ?_⟩
    simp only [closed, clean, holding, List.take_nil, List.append_nil] at hle ⊢
    exact recovers_of_eq hs hle (ofContent_fileOf hs hle)
  | @broken rs r written rest hs hr hrest =>
    have hfits : Frame.Fits ⟨rs.length, r.1, r.2⟩ := ⟨hr, hn⟩
    obtain ⟨n, hclosed⟩ := closed_broken hrest flushed
    rw [hclosed]
    -- a part of the frame is cut off, but all of it is a record like the others
    by_cases hwhole : n < (Frame.bytes ⟨rs.length, r.1, r.2⟩).length
    · refine ⟨[], .inl rfl, ?_⟩
      rw [List.append_nil]
      exact recovers_of_eq hs (Nat.le_of_lt hn)
        (ofContent_append hs (Nat.le_of_lt hn) (Frame.decode_take_bytes hfits hwhole))
    · refine ⟨[r], .inr ⟨r, rfl, rfl⟩, ?_⟩
      have hmore : (rs ++ [r]).length ≤ Frame.offsets := by
        rw [List.length_append]
        exact hn
      rw [List.take_of_length_le (by omega), ← fileOf_concat]
      exact recovers_of_eq (short_concat hs hr) hmore (ofContent_fileOf (short_concat hs hr) hmore)

/-- Failed appends do not damage a file. -/
theorem acknowledged_kept (rs : List (String × Bytes)) (attempts : List Attempt)
    (hs : ∀ r ∈ rs, Short r) (hn : rs.length + attempts.length < Frame.offsets) :
    let s := (opened rs).after attempts
    -- at every moment the file starts with the frames of the acknowledged records
    (s.content.take s.file.size = fileOf s.acknowledged ∧
      s.file.positions = startsOf s.acknowledged) ∧
    -- a failed append that is rolled back leaves exactly these frames, and its offset to the next
    (∀ a t, s.file.refused = false → Short a.record → a.trouble = some t → t.rollback = none →
      s.offer a = (.error (.file t.cause), s) ∧ s.content = fileOf s.acknowledged ∧
      ∀ b : Attempt, Short b.record → (s.offer b.smooth).1 = .ok s.acknowledged.length) ∧
    -- one that is not rolled back is the last that the file takes
    (∀ a t, s.file.refused = false → Short a.record → a.trouble = some t → t.rollback ≠ none →
      let s' := (s.offer a).2
      (s.offer a).1 = .error (.file t.cause) ∧ s'.acknowledged = s.acknowledged ∧
      s'.stuck = some a.record ∧
      ∀ more b, s'.after more = s' ∧ ((s'.after more).offer b).1 = .error .inconsistent) ∧
    -- and the records are found again, with at most the stuck one behind them
    ∀ flushed, ∃ extra, (extra = [] ∨ ∃ r, s.stuck = some r ∧ extra = [r]) ∧
      Recovers (s.closed flushed) (s.acknowledged ++ extra) := by
  intro s
  have hopened : opened rs = clean rs := opened_eq hs (by omega)
  have hintact : s.Intact := intact_after (hopened ▸ .clean hs) attempts
  have hlength : s.acknowledged.length < Frame.offsets :=
    Nat.lt_of_le_of_lt (length_acknowledged_after (opened rs) attempts) hn
  refine ⟨take_content hintact, ?_, ?_, recovers_closed hintact hlength⟩
  · intro a t hf ha ht hr
    obtain ⟨hclean, -⟩ := eq_clean hintact hf
    rw [hclean]
    refine ⟨offer_undone _ ha ht hr, rfl, ?_⟩
    intro b hb
    rw [offer_smooth (a := b.smooth) _ hb rfl]
    rfl
  · intro a t hf ha ht hr
    obtain ⟨hclean, -⟩ := eq_clean hintact hf
    obtain ⟨rest, hoffer, -⟩ := offer_stuck s.acknowledged ha ht hr
    rw [← hclean] at hoffer
    rw [hoffer]
    refine ⟨rfl, rfl, rfl, ?_⟩
    intro more b
    rw [after_refused rfl, offer_refused rfl]
    exact ⟨rfl, rfl⟩

theorem acknowledged_kept_stuck :
    let rs : List (String × Bytes) := [("k", [1])]
    let attempts : List Attempt := [⟨"a", [2], some ⟨.fileTooLarge, 5, true, none⟩⟩,
      ⟨"b", [], none⟩, ⟨"c", [3], some ⟨.fileTooLarge, 7, true, some .noHandle⟩⟩,
      ⟨"d", [4], none⟩]
    (∀ r ∈ rs, Short r) ∧ rs.length + attempts.length < Frame.offsets ∧
    let s := (opened rs).after attempts
    s.content.take s.file.size = fileOf [("k", [1]), ("b", [])] ∧
    ∃ extra, (extra = [] ∨ extra = [("c", [3])]) ∧
      Recovers (s.closed 9) ([("k", [1]), ("b", [])] ++ extra) := by
  intro rs attempts
  have hs : ∀ r ∈ rs, Short r := by decide
  have hn : rs.length + attempts.length < Frame.offsets := by decide
  refine ⟨hs, hn, ?_⟩
  intro s
  obtain ⟨⟨hcontent, -⟩, -, -, hrecovers⟩ := acknowledged_kept rs attempts hs hn
  have hacknowledged : s.acknowledged = [("k", [1]), ("b", [])] := by decide +kernel
  have hstuck : s.stuck = some ("c", [3]) := by decide +kernel
  obtain ⟨extra, hextra, hrecovers⟩ := hrecovers 9
  rw [hacknowledged] at hcontent hrecovers
  refine ⟨hcontent, extra, hextra.imp_right ?_, hrecovers⟩
  rintro ⟨r, hr, rfl⟩
  rw [Option.some.inj (hr.symm.trans hstuck)]

end Session

end SchemaRegistry.StreamFile
