import SchemaRegistry.Log.Segment
import SchemaRegistry.Proofs.Stem
import SchemaRegistry.Proofs.StreamFile
import SchemaRegistry.Proofs.Table

/-!
A log of segment files answers as a log in memory does, and goes on doing so when it is closed and
opened again.  It only refuses records whose lengths do not fit their fields.
-/

namespace SchemaRegistry

open SchemaRegistry.Frame (Short fileOf startsOf)

namespace SegmentLog

open StreamFile (holding)

theorem decodeRange_file (stream : String) {n : Nat} {rs : List (String × Bytes)}
    (h : ∀ e ∈ MemoryLog.numbered n rs, Frame.Fits e) (rest : Bytes) :
    decodeRange stream rs.length n (Frame.file (MemoryLog.numbered n rs) ++ rest) =
      .ok (MemoryLog.numbered n rs) := by
  induction rs generalizing n with
  | nil => rfl
  | cons r rs ih =>
    simp only [MemoryLog.numbered, List.forall_mem_cons] at h
    simp only [MemoryLog.numbered, Frame.file_cons, List.append_assoc, List.length_cons,
      decodeRange, Frame.decode_bytes_append h.1, ne_eq, not_true_eq_false, ↓reduceIte,
      List.drop_left, ih h.2]
    rfl

/-- The directory and the index of a segment log are what a log in memory makes of them. -/
structure Agrees (l : SegmentLog) (m : MemoryLog) : Prop where
  limits : l.limits = .none
  short : ∀ stream, ∀ r ∈ m.records stream, Short r
  file : ∀ stream, l.nodes.get? (Stem.fileName stream) = some (.file (fileOf (m.records stream))) ∨
    l.nodes.get? (Stem.fileName stream) = none ∧ m.records stream = []
  opened : ∀ stream s, l.opened.get? stream = some s → s = ⟨holding (m.records stream), none⟩ ∧
    l.nodes.get? (Stem.fileName stream) = some (.file (fileOf (m.records stream)))

def store (l : SegmentLog) (stream : String) (rs : List (String × Bytes)) : SegmentLog :=
  { l with
    nodes := l.nodes.insert (Stem.fileName stream) (.file (fileOf rs))
    opened := l.opened.insert stream ⟨holding rs, none⟩ }

section

variable {l : SegmentLog} {m : MemoryLog} {stream : String}

theorem agrees_empty (capacity : Nat) : Agrees (.ofNodes ∅ capacity) ∅ where
  limits := rfl
  short _ _ h := by simp at h
  file _ := .inr ⟨rfl, rfl⟩
  opened _ _ h := by simp [ofNodes] at h

theorem Agrees.store {m' : MemoryLog} (h : Agrees l m) (hs : ∀ r ∈ m'.records stream, Short r)
    (hframe : ∀ s, s ≠ stream → m'.records s = m.records s) :
    Agrees (l.store stream (m'.records stream)) m' where
  limits := h.limits
  short s := by
    by_cases hs' : s = stream
    · exact hs' ▸ hs
    · rw [hframe s hs']; exact h.short s
  file s := by
    by_cases hs' : s = stream
    · subst hs'; left; simp [SegmentLog.store]
    · rw [hframe s hs']
      simpa [SegmentLog.store, Table.get?_insert, Stem.fileName_inj, hs'] using h.file s
  opened s o ho := by
    by_cases hs' : s = stream
    · subst hs'; simpa [SegmentLog.store, eq_comm] using ho
    · rw [hframe s hs']
      simp only [SegmentLog.store, Table.get?_insert, hs', ↓reduceIte] at ho
      simpa [SegmentLog.store, Table.get?_insert, Stem.fileName_inj, hs'] using h.opened s o ho

theorem readFile_of_none (h : l.limits = .none) {name : String} (hname : nameFits name = true)
    (hnone : l.nodes.get? name = none) : l.readFile name = .error .notFound := by
  simp [readFile, h, Limits.none, Limits.exhausted, hname, hnone]

theorem readFile_of_file (h : l.limits = .none) {name : String} (hname : nameFits name = true)
    {content : Bytes} (hfile : l.nodes.get? name = some (.file content)) :
    l.readFile name = .ok content := by
  simp [readFile, h, Limits.none, Limits.exhausted, hname, hfile]

theorem openStream_eq (h : Agrees l m) (hname : nameFits (Stem.fileName stream) = true)
    (hn : m.length stream ≤ Frame.offsets) :
    l.openStream stream =
      .ok (⟨holding (m.records stream), none⟩, l.store stream (m.records stream)) := by
  have hcontent := StreamFile.ofContent_fileOf (h.short stream) hn
  rcases h.file stream with hfile | ⟨hnone, hempty⟩
  · simp [openStream, readFile_of_file h.limits hname hfile, hcontent, SegmentLog.store]
  · rw [hempty] at hcontent ⊢
    have hnil : StreamFile.ofContent [] = (holding [], fileOf []) := hcontent
    simp [openStream, readFile_of_none h.limits hname hnone, hnil, SegmentLog.store]

theorem agrees_store_records (h : Agrees l m) (stream : String) :
    Agrees (l.store stream (m.records stream)) m :=
  h.store (h.short stream) fun _ _ => rfl

theorem lookup_opened {s : OpenStream} (h : l.opened.get? stream = some s) (create : Bool) :
    l.lookup stream create = .ok (some s, l) := by
  simp [lookup, h]

theorem lookup_create (h : Agrees l m) (hname : nameFits (Stem.fileName stream) = true)
    (hn : m.length stream ≤ Frame.offsets) :
    ∃ l', l.lookup stream true = .ok (some ⟨holding (m.records stream), none⟩, l') ∧ Agrees l' m ∧
      l'.nodes.get? (Stem.fileName stream) = some (.file (fileOf (m.records stream))) := by
  cases ho : l.opened.get? stream with
  | some s =>
    obtain ⟨rfl, hfile⟩ := h.opened stream s ho
    exact ⟨l, lookup_opened ho true, h, hfile⟩
  | none =>
    refine ⟨l.store stream (m.records stream), ?_, agrees_store_records h stream, by simp [store]⟩
    simp [lookup, ho, openStream_eq h hname hn]

theorem lookup_read (h : Agrees l m) (hname : nameFits (Stem.fileName stream) = true)
    (hn : m.length stream ≤ Frame.offsets) :
    l.lookup stream false = .ok (none, l) ∧ m.records stream = [] ∨
    ∃ l', l.lookup stream false = .ok (some ⟨holding (m.records stream), none⟩, l') ∧ Agrees l' m ∧
      l'.nodes.get? (Stem.fileName stream) = some (.file (fileOf (m.records stream))) := by
  cases ho : l.opened.get? stream with
  | some s =>
    obtain ⟨rfl, hfile⟩ := h.opened stream s ho
    exact .inr ⟨l, lookup_opened ho false, h, hfile⟩
  | none =>
    rcases h.file stream with hfile | ⟨hnone, hempty⟩
    · refine .inr ⟨l.store stream (m.records stream), ?_, agrees_store_records h stream,
        by simp [store]⟩
      simp [lookup, ho, hname, Table.contains, hfile, openStream_eq h hname hn]
    · exact .inl ⟨by simp [lookup, ho, Table.contains, hnone], hempty⟩

theorem contentOf_eq {s : OpenStream} (hs : s.detached = none) {content : Bytes}
    (hfile : l.nodes.get? (Stem.fileName stream) = some (.file content)) :
    l.contentOf stream s = content := by
  simp [contentOf, hs, hfile]

theorem append_of_lookup {l' : SegmentLog} {rs : List (String × Bytes)}
    (hlookup : l.lookup stream true = .ok (some ⟨holding rs, none⟩, l')) (h : l'.limits = .none)
    (hfile : l'.nodes.get? (Stem.fileName stream) = some (.file (fileOf rs))) {key : String}
    {value : Bytes} (hr : Short (key, value)) :
    l.append stream key value = (.ok rs.length, l'.store stream (rs ++ [(key, value)])) := by
  have hcontent := contentOf_eq (s := ⟨holding rs, none⟩) rfl hfile
  have hfault (frame : Bytes) :
      l'.limits.writeFault l'.capacity (fileOf rs) frame (holding rs).size = none := by
    simp [h, Limits.none, Limits.writeFault, Limits.room]
  rw [append, hlookup]
  simp only [appendTo, hcontent, StreamFile.append_of_short _ _ hr, hfault,
    StreamFile.write_holding]
  rfl

theorem append_of_short (h : Agrees l m) (hname : nameFits (Stem.fileName stream) = true)
    (hn : m.length stream ≤ Frame.offsets) {key : String} {value : Bytes}
    (hr : Short (key, value)) :
    ∃ l', l.append stream key value = (.ok (m.append stream key value).1, l') ∧
      Agrees l' (m.append stream key value).2 := by
  obtain ⟨l', hlookup, hl', hfile⟩ := lookup_create h hname hn
  have hrecords := m.records_append stream key value
  refine ⟨l'.store stream ((m.append stream key value).2.records stream), ?_, hl'.store ?_ ?_⟩
  · rw [append_of_lookup hlookup hl'.limits hfile hr, hrecords, if_pos rfl]
    rfl
  · rw [hrecords, if_pos rfl]
    exact List.forall_mem_append.2 ⟨h.short stream, List.forall_mem_singleton.2 hr⟩
  · intro s hs
    rw [hrecords, if_neg hs]

theorem append_of_not_short (h : Agrees l m) (hname : nameFits (Stem.fileName stream) = true)
    (hn : m.length stream ≤ Frame.offsets) {key : String} {value : Bytes}
    (hr : ¬ Short (key, value)) :
    ∃ l', l.append stream key value =
      (.error (.tooLarge stream ((utf8 key).length + value.length)), l') ∧ Agrees l' m := by
  obtain ⟨l', hlookup, hl', hfile⟩ := lookup_create h hname hn
  refine ⟨l', ?_, hl'⟩
  have hcontent := contentOf_eq (s := ⟨holding (m.records stream), none⟩) rfl hfile
  rw [append, hlookup]
  simp only [appendTo, hcontent, StreamFile.append_of_not_short _ _ hr]

theorem readRange_eq {rs : List (String × Bytes)} (h : l.limits = .none)
    (hname : nameFits (Stem.fileName stream) = true)
    (hfile : l.nodes.get? (Stem.fileName stream) = some (.file (fileOf rs)))
    (start last : Nat) (hle : start ≤ last) :
    l.readRange stream (Frame.file ((MemoryLog.numbered 0 rs).take start)).length
      (Frame.file ((MemoryLog.numbered 0 rs).take last)).length =
        .ok (Frame.file (((MemoryLog.numbered 0 rs).take last).drop start)) := by
  have htake := Frame.take_file (MemoryLog.numbered 0 rs) last
  have hdrop := Frame.drop_file ((MemoryLog.numbered 0 rs).take last) start
  rw [List.take_take, Nat.min_eq_left hle] at hdrop
  have hshort : ¬ (fileOf rs).length <
      (Frame.file ((MemoryLog.numbered 0 rs).take last)).length := by
    rw [← htake, List.length_take]
    exact Nat.not_lt.2 (Nat.min_le_right ..)
  simp only [readRange, readFile_of_file h hname hfile, hshort, ↓reduceIte, htake, hdrop]

theorem fetch_of_lookup {l' : SegmentLog} {rs : List (String × Bytes)}
    (hlookup : l.lookup stream false = .ok (some ⟨holding rs, none⟩, l')) (h : l'.limits = .none)
    (hname : nameFits (Stem.fileName stream) = true)
    (hfile : l'.nodes.get? (Stem.fileName stream) = some (.file (fileOf rs)))
    (hs : ∀ r ∈ rs, Short r) (hn : rs.length ≤ Frame.offsets) (start max : Nat) :
    l.fetch stream start max = (.ok (((MemoryLog.numbered 0 rs).drop start).take max), l') := by
  rw [fetch, hlookup]
  by_cases hnone : max = 0 ∨ rs.length ≤ start
  · have hrest : ((MemoryLog.numbered 0 rs).drop start).take max = [] := by
      rcases hnone with rfl | hstart
      · exact List.take_zero
      · rw [List.drop_of_length_le (by simpa using hstart), List.take_nil]
    simp only [StreamFile.range?_holding, hnone, ↓reduceIte, hrest]
  · simp only [StreamFile.range?_holding, hnone, ↓reduceIte]
    rw [not_or, Nat.not_le] at hnone
    -- the frames between the two places are those of the slice
    generalize hlast : min rs.length (start + max) = last
    have hrange : ((MemoryLog.numbered 0 rs).take last).drop start =
        ((MemoryLog.numbered 0 rs).drop start).take max := by
      rw [List.take_drop, List.take_eq_take_min (i := start + max), MemoryLog.length_numbered,
        Nat.min_comm, hlast]
    have hslice : ((MemoryLog.numbered 0 rs).drop start).take max =
        MemoryLog.numbered start ((rs.drop start).take max) := by
      rw [MemoryLog.drop_numbered, MemoryLog.take_numbered, Nat.zero_add]
    have hread := readRange_eq h hname hfile start last (by omega)
    rw [hrange, hslice] at hread
    have hfits : ∀ e ∈ MemoryLog.numbered start ((rs.drop start).take max), Frame.Fits e := by
      intro e he
      rw [← hslice, ← hrange] at he
      exact Frame.fits_numbered hs (by simpa using hn) e
        (List.mem_of_mem_take (List.mem_of_mem_drop he))
    have hdecode := decodeRange_file stream hfits []
    have hcount : ((rs.drop start).take max).length = last - start := by
      rw [List.length_take, List.length_drop]
      omega
    rw [List.append_nil, hcount] at hdecode
    rw [hread, hslice]
    exact congrArg (·, l') hdecode

theorem fetch_eq (h : Agrees l m) (hname : nameFits (Stem.fileName stream) = true)
    (hn : m.length stream ≤ Frame.offsets) (start max : Nat) :
    ∃ l', l.fetch stream start max = (.ok (m.fetch stream start max), l') ∧ Agrees l' m := by
  rcases lookup_read h hname hn with ⟨hlookup, hempty⟩ | ⟨l', hlookup, hl', hfile⟩
  · refine ⟨l, ?_, h⟩
    simp [fetch, hlookup, MemoryLog.fetch, hempty, MemoryLog.numbered]
  refine ⟨l', ?_, hl'⟩
  rw [fetch_of_lookup hlookup hl'.limits hname hfile (h.short stream) hn, m.fetch_eq]
  rfl

theorem endOffset_eq (h : Agrees l m) (hname : nameFits (Stem.fileName stream) = true)
    (hn : m.length stream ≤ Frame.offsets) :
    ∃ l', l.endOffset stream = (.ok (m.length stream), l') ∧ Agrees l' m := by
  rcases lookup_read h hname hn with ⟨hlookup, hempty⟩ | ⟨l', hlookup, hl', -⟩
  · exact ⟨l, by simp [endOffset, hlookup, MemoryLog.length, hempty], h⟩
  · exact ⟨l', by simp [endOffset, hlookup, MemoryLog.length], hl'⟩

theorem agrees_reopen (h : Agrees l m) : Agrees l.reopen m := by
  -- nothing is buffered, so closing a stream leaves its file as it is
  have hclose : ∀ es : List (String × OpenStream), (∀ e ∈ es, e.2.file.buffered = []) →
      es.foldl (fun l e => l.closeStream e.1 e.2) l = l := by
    intro es hes
    induction es with
    | nil => rfl
    | cons e es ih =>
      obtain ⟨he, hrest⟩ := List.forall_mem_cons.1 hes
      rw [List.foldl_cons, closeStream, he]
      exact ih hrest
  have hopened : l.reopen = { l with opened := ∅ } := by
    rw [reopen, hclose]
    intro e he
    have := (h.opened e.1 e.2 ((Table.mem_entries_iff ..).1 he)).1
    rw [this]
    rfl
  rw [hopened]
  exact ⟨h.limits, h.short, h.file, fun _ _ ho => by simp at ho⟩

end

end SegmentLog

end SchemaRegistry
