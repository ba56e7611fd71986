import SchemaRegistry.Proofs.SegmentLog

/-!
What a log of segment files answers to a sequence of requests is what a log in memory answers, apart
from the records that are too large for a frame.  Closing and reopening it makes no difference.
-/

namespace SchemaRegistry

open SchemaRegistry.Frame (Short)

inductive LogRequest
  | append (stream key : String) (value : Bytes)
  | fetch (stream : String) (start max : Nat)
  | endOffset (stream : String)
  | reopen
  deriving DecidableEq, Repr

inductive LogReply
  | offset (n : Nat)
  | entries (es : List Entry)
  | endOffset (n : Nat)
  | reopened
  deriving DecidableEq, Repr

namespace LogRequest

def stream? : LogRequest → Option String
  | append stream _ _ => some stream
  | fetch stream _ _ => some stream
  | endOffset stream => some stream
  | reopen => none

/-- The answer to a request that is for a log of segment files alone. -/
def own? : LogRequest → Option (Except LogError LogReply)
  | append stream key value =>
    if Short (key, value) then none
    else some (.error (.tooLarge stream ((utf8 key).length + value.length)))
  | fetch .. => none
  | endOffset _ => none
  | reopen => some (.ok .reopened)

def isShared (r : LogRequest) : Bool := r.own?.isNone

def serveAll {σ α : Type} (serve : σ → LogRequest → α × σ) :
    σ → List LogRequest → List (LogRequest × α) × σ
  | s, [] => ([], s)
  | s, r :: rs =>
    let (answer, s) := serve s r
    let (history, s) := serveAll serve s rs
    ((r, answer) :: history, s)

theorem map_fst_serveAll {σ α : Type} (serve : σ → LogRequest → α × σ) (s : σ)
    (rs : List LogRequest) : (serveAll serve s rs).1.map (·.1) = rs := by
  induction rs generalizing s with
  | nil => rfl
  | cons r rs ih => simp [serveAll, ih]

def acknowledged (stream : String) (history : List (LogRequest × Except LogError LogReply)) :
    List Entry :=
  history.filterMap fun
    | (.append s key value, .ok (.offset n)) => if s = stream then some ⟨n, key, value⟩ else none
    | _ => none

theorem acknowledged_cons (stream : String) (x : LogRequest × Except LogError LogReply)
    (history : List (LogRequest × Except LogError LogReply)) :
    acknowledged stream (x :: history) =
      acknowledged stream [x] ++ acknowledged stream history := by
  rw [← List.singleton_append, acknowledged, List.filterMap_append]
  rfl

theorem acknowledged_own {r : LogRequest} {answer : Except LogError LogReply}
    (h : r.own? = some answer) (stream : String) : acknowledged stream [(r, answer)] = [] := by
  cases r with
  | append s key value =>
    simp only [own?] at h
    split at h
    · cases h
    · cases h
      rfl
  | fetch => cases h
  | endOffset => cases h
  | reopen => cases h; rfl

end LogRequest

open LogRequest (serveAll acknowledged)

namespace MemoryLog

def serve (m : MemoryLog) : LogRequest → LogReply × MemoryLog
  | .append stream key value =>
    let (offset, m) := m.append stream key value
    (.offset offset, m)
  | .fetch stream start max => (.entries (m.fetch stream start max), m)
  | .endOffset stream => (.endOffset (m.length stream), m)
  | .reopen => (.reopened, m)

theorem entries_serve (m : MemoryLog) (r : LogRequest) (stream : String) :
    (m.serve r).2.entries stream =
      m.entries stream ++ acknowledged stream [(r, .ok (m.serve r).1)] := by
  cases r with
  | append s key value =>
    have := m.entries_append s key value stream
    by_cases hs : stream = s
    · subst hs
      simpa [serve, acknowledged, append] using this
    · simpa [serve, acknowledged, hs, Ne.symm hs] using this
  | fetch => exact (List.append_nil _).symm
  | endOffset => exact (List.append_nil _).symm
  | reopen => exact (List.append_nil _).symm

theorem length_serve (m : MemoryLog) (r : LogRequest) (stream : String) :
    (m.serve r).2.length stream ≤ m.length stream + 1 := by
  have hentries := congrArg List.length (m.entries_serve r stream)
  have hone : (acknowledged stream [(r, .ok (m.serve r).1)]).length ≤ 1 :=
    List.length_filterMap_le ..
  rw [List.length_append, length_entries, length_entries] at hentries
  omega

end MemoryLog

namespace SegmentLog

def serve (l : SegmentLog) : LogRequest → Except LogError LogReply × SegmentLog
  | .append stream key value =>
    let (r, l) := l.append stream key value
    (r.map .offset, l)
  | .fetch stream start max =>
    let (r, l) := l.fetch stream start max
    (r.map .entries, l)
  | .endOffset stream =>
    let (r, l) := l.endOffset stream
    (r.map .endOffset, l)
  | .reopen => (.ok .reopened, l.reopen)

section

variable {l : SegmentLog} {m : MemoryLog}

theorem agrees_serve (h : Agrees l m) {r : LogRequest}
    (hname : ∀ stream, r.stream? = some stream → nameFits (Stem.fileName stream) = true)
    (hn : ∀ stream, m.length stream ≤ Frame.offsets) :
    (r.own? = none ∧ (l.serve r).1 = .ok (m.serve r).1 ∧ Agrees (l.serve r).2 (m.serve r).2) ∨
    (r.own? = some (l.serve r).1 ∧ Agrees (l.serve r).2 m) := by
  cases r with
  | append stream key value =>
    by_cases hr : Short (key, value)
    · obtain ⟨l', happend, hl'⟩ := append_of_short h (hname stream rfl) (hn stream) hr
      refine .inl ⟨if_pos hr, ?_⟩
      simp only [serve, happend]
      exact ⟨rfl, hl'⟩
    · obtain ⟨l', happend, hl'⟩ := append_of_not_short h (hname stream rfl) (hn stream) hr
      refine .inr ⟨(if_neg hr).trans ?_, ?_⟩
      · simp only [serve, happend]
        rfl
      · simpa only [serve, happend] using hl'
  | fetch stream start max =>
    obtain ⟨l', hfetch, hl'⟩ := fetch_eq h (hname stream rfl) (hn stream) start max
    refine .inl ⟨rfl, ?_⟩
    simp only [serve, hfetch]
    exact ⟨rfl, hl'⟩
  | endOffset stream =>
    obtain ⟨l', hend, hl'⟩ := endOffset_eq h (hname stream rfl) (hn stream)
    refine .inl ⟨rfl, ?_⟩
    simp only [serve, hend]
    exact ⟨rfl, hl'⟩
  | reopen => exact .inr ⟨rfl, agrees_reopen h⟩

/-- What two logs in agreement answer, and what becomes of them. -/
structure Matches (m : MemoryLog) (requests : List LogRequest)
    (history : List (LogRequest × Except LogError LogReply)) (l' : SegmentLog) : Prop where
  shared : history.filter (·.1.isShared) =
    (serveAll MemoryLog.serve m (requests.filter (·.isShared))).1.map fun x => (x.1, .ok x.2)
  own : ∀ x ∈ history, ∀ answer, x.1.own? = some answer → x.2 = answer
  agrees : Agrees l' (serveAll MemoryLog.serve m (requests.filter (·.isShared))).2
  entries : ∀ stream,
    (serveAll MemoryLog.serve m (requests.filter (·.isShared))).2.entries stream =
      m.entries stream ++ acknowledged stream history

theorem matches_serveAll (requests : List LogRequest) (h : Agrees l m)
    (hname : ∀ r ∈ requests, ∀ stream, r.stream? = some stream →
      nameFits (Stem.fileName stream) = true)
    (hn : ∀ stream, m.length stream + requests.length ≤ Frame.offsets) :
    Matches m requests (serveAll serve l requests).1 (serveAll serve l requests).2 := by
  induction requests generalizing l m with
  | nil => exact ⟨rfl, by simp [serveAll], h, fun _ => (List.append_nil _).symm⟩
  | cons r requests ih =>
    obtain ⟨hfirst, hrest⟩ := List.forall_mem_cons.1 hname
    simp only [List.length_cons] at hn
    rcases agrees_serve h hfirst (fun stream => by have := hn stream; omega) with
      ⟨hown, hanswer, hl⟩ | ⟨hown, hl⟩
    · have hshared : r.isShared = true := by simp [LogRequest.isShared, hown]
      have ih := ih hl hrest fun stream => by
        have := m.length_serve r stream
        have := hn stream
        omega
      constructor
      · simpa [serveAll, hshared, hanswer] using ih.shared
      · refine List.forall_mem_cons.2 ⟨fun answer ha => ?_, ih.own⟩
        rw [hown] at ha
        cases ha
      · simpa [serveAll, hshared] using ih.agrees
      · intro stream
        have := ih.entries stream
        rw [m.entries_serve, List.append_assoc, ← hanswer, ← LogRequest.acknowledged_cons] at this
        simpa [serveAll, hshared] using this
    · have hshared : r.isShared = false := by simp [LogRequest.isShared, hown]
      have ih := ih hl hrest fun stream => by have := hn stream; omega
      constructor
      · simpa [serveAll, hshared] using ih.shared
      · refine List.forall_mem_cons.2 ⟨fun answer ha => ?_, ih.own⟩
        exact Option.some.inj (hown.symm.trans ha)
      · simpa [serveAll, hshared] using ih.agrees
      · intro stream
        have := ih.entries stream
        rw [← List.nil_append (acknowledged _ _), ← LogRequest.acknowledged_own hown stream,
          ← LogRequest.acknowledged_cons] at this
        simpa [serveAll, hshared] using this

theorem Matches.error_tooLarge {requests : List LogRequest}
    {history : List (LogRequest × Except LogError LogReply)} {l' : SegmentLog}
    (h : Matches m requests history l') {x : LogRequest × Except LogError LogReply}
    (hx : x ∈ history) {e : LogError} (he : x.2 = .error e) :
    ∃ stream key value, x.1 = .append stream key value ∧ ¬ Short (key, value) ∧
      e = .tooLarge stream ((utf8 key).length + value.length) := by
  cases hown : x.1.own? with
  | none =>
    have hmem : x ∈ history.filter (·.1.isShared) :=
      List.mem_filter.2 ⟨hx, by simp [LogRequest.isShared, hown]⟩
    rw [h.shared, List.mem_map] at hmem
    obtain ⟨y, -, rfl⟩ := hmem
    cases he
  | some answer =>
    have hanswer := h.own x hx answer hown
    rw [he] at hanswer
    subst hanswer
    obtain ⟨r, _⟩ := x
    cases r with
    | append stream key value =>
      simp only [LogRequest.own?] at hown
      split at hown
      · cases hown
      · next hr =>
        cases hown
        exact ⟨stream, key, value, rfl, hr, rfl⟩
    | fetch => cases hown
    | endOffset => cases hown
    | reopen => cases hown

end

/-- A new log of segment files answers as a log in memory does. -/
theorem serveAll_ofNodes (capacity : Nat) (requests : List LogRequest)
    (hname : ∀ r ∈ requests, ∀ stream, r.stream? = some stream →
      nameFits (Stem.fileName stream) = true)
    (hn : requests.length ≤ Frame.offsets) :
    let history := (serveAll serve (ofNodes ∅ capacity) requests).1
    let l := (serveAll serve (ofNodes ∅ capacity) requests).2
    -- every request for both logs has the answer of the log in memory
    history.filter (·.1.isShared) =
      (serveAll MemoryLog.serve ∅ (requests.filter (·.isShared))).1.map (fun x => (x.1, .ok x.2)) ∧
    -- any other is a record that is too large, or reopens the log
    (∀ x ∈ history, ∀ answer, x.1.own? = some answer → x.2 = answer) ∧
    (∀ x ∈ history, ∀ e, x.2 = .error e → ∃ stream key value, x.1 = .append stream key value ∧
      ¬ Short (key, value) ∧ e = .tooLarge stream ((utf8 key).length + value.length)) ∧
    -- offsets are dense, and the acknowledged records are what is read
    ∀ stream, let es := acknowledged stream history
      es.map (·.offset) = List.range es.length ∧
      (nameFits (Stem.fileName stream) = true →
        (∀ start max, (l.fetch stream start max).1 = .ok ((es.drop start).take max)) ∧
        (l.endOffset stream).1 = .ok es.length) := by
  intro history l
  have h : Matches ∅ requests history l :=
    matches_serveAll requests (agrees_empty capacity) hname fun stream => by
      simpa [MemoryLog.length] using hn
  refine ⟨h.shared, h.own, fun x hx e he => h.error_tooLarge hx he, ?_⟩
  intro stream es
  generalize hm : (serveAll MemoryLog.serve ∅ (requests.filter (·.isShared))).2 = m at *
  have hentries : m.entries stream = es := by
    rw [← hm]
    exact h.entries stream
  have hlength : m.length stream = es.length := by rw [← hentries, m.length_entries]
  have hbound : m.length stream ≤ Frame.offsets := by
    have hes : es.length ≤ history.length := List.length_filterMap_le ..
    have hall : (history.map (·.1)).length = requests.length :=
      congrArg List.length (LogRequest.map_fst_serveAll ..)
    rw [List.length_map] at hall
    omega
  refine ⟨?_, fun hfits => ⟨fun start max => ?_, ?_⟩⟩
  · rw [← hlength, ← hentries, List.range_eq_range']
    exact MemoryLog.map_offset_numbered ..
  · obtain ⟨l', hfetch, -⟩ := fetch_eq (hm ▸ h.agrees) hfits hbound start max
    rw [hfetch, m.fetch_eq, hentries]
  · obtain ⟨l', hend, -⟩ := endOffset_eq (hm ▸ h.agrees) hfits hbound
    rw [hend, hlength]

theorem serveAll_ofNodes_reopened :
    let requests : List LogRequest :=
      [.append "a" "k" [1], .append "b" "" [], .reopen, .append "a" "k" [2], .endOffset "b"]
    (∀ r ∈ requests, ∀ stream, r.stream? = some stream → nameFits (Stem.fileName stream) = true) ∧
    requests.length ≤ Frame.offsets ∧
    let l := (serveAll serve (ofNodes ∅ 8) requests).2
    (l.fetch "a" 0 9).1 = .ok [⟨0, "k", [1]⟩, ⟨1, "k", [2]⟩] := by
  intro requests
  have hname : ∀ r ∈ requests, ∀ stream, r.stream? = some stream →
      nameFits (Stem.fileName stream) = true := by
    intro r hr stream hstream
    simp only [requests, List.mem_cons, List.not_mem_nil, or_false] at hr
    rcases hr with rfl | rfl | rfl | rfl | rfl <;> cases hstream <;> rfl
  have hn : requests.length ≤ Frame.offsets := by decide
  obtain ⟨-, -, -, hstreams⟩ := serveAll_ofNodes 8 requests hname hn
  refine ⟨hname, hn, ?_⟩
  have hfetch := ((hstreams "a").2 rfl).1 0 9
  have hes : acknowledged "a" (serveAll serve (ofNodes ∅ 8) requests).1 =
      [⟨0, "k", [1]⟩, ⟨1, "k", [2]⟩] := by decide +kernel
  rw [hes] at hfetch
  exact hfetch

end SegmentLog

end SchemaRegistry
