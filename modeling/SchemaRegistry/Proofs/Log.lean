import SchemaRegistry.Log.Basic
import SchemaRegistry.Proofs.SegmentLog

/-!
A log of either kind, seen as the log in memory that it agrees with.  An append that is acknowledged
is an append there, and what can be fetched is what can be fetched there.
-/

namespace SchemaRegistry

namespace SegmentLog

structure Named (l : SegmentLog) (m : MemoryLog) : Prop where
  opened : ∀ stream s, l.opened.get? stream = some s → nameFits (Stem.fileName stream) = true
  records : ∀ stream, nameFits (Stem.fileName stream) = false → m.records stream = []

variable {l l' : SegmentLog} {m : MemoryLog} {stream : String}

theorem openStream_named (h : Named l m) (hlimits : l.limits = .none) {s : OpenStream}
    (hopen : l.openStream stream = .ok (s, l')) :
    nameFits (Stem.fileName stream) = true ∧ Named l' m := by
  have hname : nameFits (Stem.fileName stream) = true := by
    cases hname : nameFits (Stem.fileName stream) with
    | true => rfl
    | false => simp [openStream, readFile, hlimits, Limits.none, Limits.exhausted, hname] at hopen
  refine ⟨hname, fun t o ho => ?_, h.records⟩
  have hopened : l'.opened = l.opened.insert stream s := by
    simp only [openStream] at hopen
    split at hopen
    · cases hopen
    · cases hopen
      rfl
  rw [hopened, Table.get?_insert] at ho
  split at ho
  · next ht => exact ht ▸ hname
  · exact h.opened t o ho

theorem lookup_named (h : Named l m) (hlimits : l.limits = .none) {create : Bool}
    {found : Option OpenStream} (hlookup : l.lookup stream create = .ok (found, l')) :
    Named l' m ∧ (found.isSome → nameFits (Stem.fileName stream) = true) := by
  simp only [lookup] at hlookup
  split at hlookup
  · next o ho =>
    cases hlookup
    exact ⟨h, fun _ => h.opened stream _ ho⟩
  · split at hlookup
    · cases hlookup
      exact ⟨h, fun hsome => absurd hsome (by simp)⟩
    · split at hlookup
      · cases hlookup
      · next hopen =>
        cases hlookup
        obtain ⟨hname, hl'⟩ := openStream_named h hlimits hopen
        exact ⟨hl', fun _ => hname⟩

theorem opened_put {t : String} {s o : OpenStream} {content : Bytes}
    (h : (l.put stream s content).opened.get? t = some o) :
    t = stream ∨ l.opened.get? t = some o := by
  have hopened : ∃ s', (l.put stream s content).opened = l.opened.insert stream s' := by
    rw [put]
    split
    · exact ⟨_, rfl⟩
    · exact ⟨_, rfl⟩
  obtain ⟨s', hs'⟩ := hopened
  rw [hs', Table.get?_insert] at h
  split at h
  · next ht => exact .inl ht
  · exact .inr h

theorem opened_appendTo {t key : String} {s o : OpenStream} {value : Bytes}
    (h : (l.appendTo stream s key value).2.opened.get? t = some o) :
    t = stream ∨ l.opened.get? t = some o := by
  simp only [appendTo] at h
  split at h
  · exact .inr h
  · exact .inr h
  · exact opened_put h
  · exact opened_put h

theorem opened_append (hnamed : Named l m) (hlimits : l.limits = .none) {key t : String}
    {value : Bytes} {r : Except LogError Nat} {o : OpenStream}
    (happend : l.append stream key value = (r, l')) (ho : l'.opened.get? t = some o) :
    nameFits (Stem.fileName t) = true := by
  have hl' : (l.append stream key value).2 = l' := congrArg Prod.snd happend
  cases hlookup : l.lookup stream true with
  | error e =>
    rw [append, hlookup] at hl'
    cases hl'
    exact hnamed.opened t o ho
  | ok found =>
    obtain ⟨hnamed₁, hname⟩ := lookup_named hnamed hlimits hlookup
    obtain ⟨none | s, l₁⟩ := found
    · rw [append, hlookup] at hl'
      cases hl'
      exact hnamed₁.opened t o ho
    · rw [append, hlookup] at hl'
      cases hl'
      rcases opened_appendTo ho with rfl | ho
      · exact hname rfl
      · exact hnamed₁.opened t o ho

theorem lookup_unfit (hnamed : Named l m) (hlimits : l.limits = .none)
    (hname : nameFits (Stem.fileName stream) = false) :
    l.lookup stream true = .error (.io stream (.file .nameTooLong)) := by
  cases hopened : l.opened.get? stream with
  | some s =>
    rw [hnamed.opened stream s hopened] at hname
    cases hname
  | none =>
    simp [lookup, hopened, openStream, readFile, hlimits, Limits.none, Limits.exhausted, hname]

theorem append_cases (h : Agrees l m) (hnamed : Named l m) (hn : m.length stream ≤ Frame.offsets)
    (key : String) (value : Bytes) :
    (∃ l', l.append stream key value = (.ok (m.length stream), l') ∧
      Agrees l' (m.append stream key value).2 ∧ Named l' (m.append stream key value).2) ∨
    ∃ e l', l.append stream key value = (.error e, l') ∧ Agrees l' m ∧ Named l' m := by
  cases hname : nameFits (Stem.fileName stream) with
  | false =>
    have hrefused : l.append stream key value = (.error (.io stream (.file .nameTooLong)), l) := by
      rw [append, lookup_unfit hnamed h.limits hname]
    exact .inr ⟨_, l, hrefused, h, hnamed⟩
  | true =>
    by_cases hshort : SchemaRegistry.Frame.Short (key, value)
    · obtain ⟨l', hserved, hl'⟩ := append_of_short h hname hn hshort
      refine .inl ⟨l', hserved, hl',
        fun t o ho => opened_append hnamed h.limits hserved ho, fun t ht => ?_⟩
      rw [m.records_append]
      split
      · next hts =>
        rw [hts, hname] at ht
        cases ht
      · exact hnamed.records t ht
    · obtain ⟨l', hrefused, hl'⟩ := append_of_not_short h hname hn hshort
      exact .inr ⟨_, l', hrefused, hl',
        fun t o ho => opened_append hnamed h.limits hrefused ho, hnamed.records⟩

theorem lookup_unnamed (hnamed : Named l m) (hname : nameFits (Stem.fileName stream) = false) :
    l.lookup stream false = .ok (none, l) := by
  cases hopened : l.opened.get? stream with
  | some s =>
    rw [hnamed.opened stream s hopened] at hname
    cases hname
  | none => simp [lookup, hopened, hname]

theorem fetch_named (h : Agrees l m) (hnamed : Named l m) (hn : m.length stream ≤ Frame.offsets)
    (start max : Nat) :
    ∃ l', l.fetch stream start max = (.ok (m.fetch stream start max), l') ∧ Agrees l' m ∧
      Named l' m := by
  cases hname : nameFits (Stem.fileName stream) with
  | false =>
    refine ⟨l, ?_, h, hnamed⟩
    simp [fetch, lookup_unnamed hnamed hname, MemoryLog.fetch, hnamed.records stream hname,
      MemoryLog.numbered]
  | true =>
    obtain ⟨l', hfetch, hl'⟩ := fetch_eq h hname hn start max
    refine ⟨l', hfetch, hl', ?_⟩
    -- only the lookup changes the log
    cases hlookup : l.lookup stream false with
    | error e => simp [fetch, hlookup] at hfetch
    | ok found =>
      obtain ⟨found, l₁⟩ := found
      have hstate : (l.fetch stream start max).2 = l₁ := by
        simp only [fetch, hlookup]
        cases found with
        | none => rfl
        | some s =>
          simp only
          split <;> rfl
      rw [hfetch] at hstate
      cases hstate
      exact (lookup_named hnamed h.limits hlookup).1

theorem length_named (h : Agrees l m) (hnamed : Named l m) (hn : m.length stream ≤ Frame.offsets) :
    (l.endOffset stream).1 = .ok (m.length stream) := by
  cases hname : nameFits (Stem.fileName stream) with
  | false =>
    simp [endOffset, lookup_unnamed hnamed hname, MemoryLog.length, hnamed.records stream hname]
  | true =>
    obtain ⟨l', hend, -⟩ := endOffset_eq h hname hn
    rw [hend]

end SegmentLog

open SegmentLog (Agrees Named)

namespace Log

inductive Holds : Log → MemoryLog → Prop
  | memory (m : MemoryLog) : Holds (.memory m) m
  | segments (place : Place) {l : SegmentLog} {m : MemoryLog} (h : Agrees l m)
    (hnamed : Named l m) : Holds (.segments place l) m

inductive New : Log → Prop
  | memory : New (.memory ∅)
  | segments (place : Place) (capacity : Nat) : New (.segments place (.ofNodes ∅ capacity))

variable {l l' : Log} {m : MemoryLog} {stream : String}

theorem New.holds (h : l.New) : l.Holds ∅ := by
  cases h with
  | memory => exact .memory ∅
  | segments place capacity =>
    refine .segments place (SegmentLog.agrees_empty capacity) ⟨fun _ _ h => ?_, fun _ _ => rfl⟩
    cases h

theorem Holds.append_cases (h : l.Holds m) (hn : m.length stream ≤ Frame.offsets) (key : String)
    (value : Bytes) :
    (∃ l', l.append stream key value = (.ok (m.length stream), l') ∧
      l'.Holds (m.append stream key value).2) ∨
    ∃ e l', l.append stream key value = (.error e, l') ∧ l'.Holds m := by
  cases h with
  | memory => exact .inl ⟨_, rfl, .memory _⟩
  | segments place h hnamed =>
    rcases SegmentLog.append_cases h hnamed hn key value with
      ⟨l', hserved, hl', hnamed'⟩ | ⟨e, l', hrefused, hl', hnamed'⟩
    · exact .inl ⟨.segments place l', by rw [Log.append, hserved], .segments place hl' hnamed'⟩
    · exact .inr ⟨e, .segments place l', by rw [Log.append, hrefused], .segments place hl' hnamed'⟩

theorem Holds.fetch (h : l.Holds m) (hn : m.length stream ≤ Frame.offsets) (start max : Nat) :
    ∃ l', l.fetch stream start max = (.ok (m.fetch stream start max), l') ∧ l'.Holds m := by
  cases h with
  | memory => exact ⟨_, rfl, .memory m⟩
  | segments place h hnamed =>
    obtain ⟨l', hfetch, h', hnamed'⟩ := SegmentLog.fetch_named h hnamed hn start max
    exact ⟨_, by simp only [Log.fetch, hfetch], .segments place h' hnamed'⟩

theorem Holds.bound (h : l.Holds m) (hn : m.length stream ≤ Frame.offsets) :
    l.bound stream = m.length stream := by
  cases h with
  | memory => rfl
  | segments place h hnamed =>
    simp only [Log.bound, Log.endOffset, SegmentLog.length_named h hnamed hn]

end Log

end SchemaRegistry
