import SchemaRegistry.Proofs.Front
import SchemaRegistry.Proofs.SegmentLog

/-!
What is recovered from a file, whatever its bytes are: the records of its longest front.  So what
was acknowledged is not lost to what follows it, and a cut costs the records that it reaches and no
others.  No length that the file announces makes a scan read anything outside of it.
-/

namespace SchemaRegistry

open SchemaRegistry.StreamFile (holding)

namespace Frame

/-! A scan that gives up where it would read outside the data or an index would overflow. -/

def slice? (data : Bytes) (low high : Nat) : Option Bytes :=
  if low ≤ high ∧ high ≤ data.length then some ((data.take high).drop low) else none

/-- The sum of two indices, if a word of 64 bits holds it. -/
def sum? (a b : Nat) : Option Nat := if a + b < offsets then some (a + b) else none

def field? (data : Bytes) (start width : Nat) : Option Nat :=
  (slice? data start (start + width)).map Bytes.toNat

/-- As `decode`, with every index checked before it is used. -/
def decodeWithin (data : Bytes) : Option (Except Fault (Entry × Nat)) :=
  if data.length < leastSize then some (.error .tooSmall)
  else do
    if (← field? data 0 4) ≠ magic then return .error .invalidMagic
    let offset ← field? data 4 8
    let keyEnd ← sum? headerSize (← field? data 12 2)
    let bodyEnd ← sum? keyEnd (← field? data 14 4)
    let size ← sum? bodyEnd checksumSize
    if data.length < size then return .error .truncated
    let checksum ← field? data bodyEnd checksumSize
    if (Crc32c.checksum (← slice? data 0 bodyEnd)).toNat ≠ checksum then return .error .checksum
    match Utf8.decode (← slice? data headerSize keyEnd) with
    | .error cause => return .error (.key cause)
    | .ok key => return .ok (⟨offset, key, ← slice? data keyEnd bodyEnd⟩, size)

def scanWithin : (rounds : Nat) → Scan → Bytes → Option Scan
  | 0, _, _ => none
  | rounds + 1, found, data =>
    if found.size < data.length then do
      match ← decodeWithin (← slice? data found.size data.length) with
      | .error _ => return found
      | .ok (e, n) =>
        if e.offset = found.positions.length then
          scanWithin rounds ⟨found.positions ++ [found.size], found.size + n⟩ data
        else return found
    else some found

section

variable {data : Bytes}

theorem slice?_eq {low high : Nat} (hle : low ≤ high) (h : high ≤ data.length) :
    slice? data low high = some ((data.take high).drop low) :=
  if_pos ⟨hle, h⟩

theorem field?_eq {start width : Nat} (h : start + width ≤ data.length) :
    field? data start width = some (field data start width) := by
  rw [field?, slice?_eq (Nat.le_add_right ..) h, List.drop_take, Nat.add_sub_cancel_left]
  rfl

theorem sum?_eq {a b : Nat} (h : a + b < offsets) : sum? a b = some (a + b) := if_pos h

/-- Decoding reads nothing outside the data, whatever lengths the data announces. -/
theorem decodeWithin_eq (data : Bytes) : decodeWithin data = some (decode data) := by
  by_cases hsmall : data.length < leastSize
  · simp [decodeWithin, decode, hsmall]
  have hk : field data 12 2 < 0x10000 := field_lt ..
  have hv : field data 14 4 < 0x100000000 := field_lt ..
  have hleast : 22 ≤ data.length := Nat.not_lt.1 hsmall
  have hfield (start width : Nat) (h : start + width ≤ 22) :
      field? data start width = some (field data start width) := field?_eq (Nat.le_trans h hleast)
  rw [decodeWithin, decode, if_neg hsmall, if_neg hsmall]
  simp only [hfield 0 4 (by decide), hfield 4 8 (by decide), hfield 12 2 (by decide),
    hfield 14 4 (by decide), Option.bind_eq_bind, Option.bind_some]
  generalize field data 12 2 = k at *
  generalize field data 14 4 = v at *
  have hkeyEnd : sum? headerSize k = some (headerSize + k) :=
    sum?_eq (by simp only [headerSize, offsets]; omega)
  have hbodyEnd : sum? (headerSize + k) v = some (headerSize + k + v) :=
    sum?_eq (by simp only [headerSize, offsets]; omega)
  have hsize : sum? (headerSize + k + v) checksumSize = some (headerSize + k + v + checksumSize) :=
    sum?_eq (by simp only [headerSize, checksumSize, offsets]; omega)
  simp only [hkeyEnd, hbodyEnd, hsize, Option.bind_some]
  by_cases hmagic : field data 0 4 ≠ magic
  · simp [hmagic]
  by_cases hlong : data.length < headerSize + k + v + checksumSize
  · simp [hmagic, hlong]
  rw [Nat.not_lt] at hlong
  rw [field?_eq hlong, slice?_eq (Nat.zero_le _) (by omega),
    slice?_eq (Nat.le_add_right ..) (by omega), slice?_eq (Nat.le_add_right ..) (by omega)]
  have hkey : ((data.take (headerSize + k)).drop headerSize) = (data.drop headerSize).take k := by
    rw [List.drop_take, Nat.add_sub_cancel_left]
  simp only [hmagic, Nat.not_lt.2 hlong, hkey, ↓reduceIte, Option.bind_some, List.drop_zero]
  by_cases hchecksum : (Crc32c.checksum (data.take (headerSize + k + v))).toNat ≠
      field data (headerSize + k + v) checksumSize
  · rw [if_pos hchecksum, if_pos hchecksum]
    rfl
  · rw [if_neg hchecksum, if_neg hchecksum]
    cases Utf8.decode ((data.drop headerSize).take k) with
    | error cause => rfl
    | ok key => rfl

theorem scanWithin_eq (found : Scan) (h : found.size ≤ data.length) {rounds fuel : Nat}
    (hrounds : data.length - found.size < rounds) (hfuel : data.length - found.size ≤ fuel) :
    scanWithin rounds found data = some (scanFrom fuel found (data.drop found.size)) := by
  induction rounds generalizing found fuel with
  | zero => omega
  | succ rounds ih =>
    by_cases hsize : found.size < data.length
    · obtain ⟨fuel, rfl⟩ : ∃ n, fuel = n + 1 := ⟨fuel - 1, by omega⟩
      have hslice := slice?_eq h (Nat.le_refl data.length)
      rw [List.take_length] at hslice
      simp only [scanWithin, scanFrom, hsize, ↓reduceIte, hslice, Option.bind_eq_bind,
        Option.bind_some, decodeWithin_eq]
      cases hdecode : decode (data.drop found.size) with
      | error => rfl
      | ok decoded =>
        obtain ⟨e, n⟩ := decoded
        obtain ⟨-, hprefix, hn⟩ := isPrefix_of_decode hdecode
        have hle := hprefix.length_le
        have hpos := length_bytes e
        rw [List.length_drop] at hle
        rw [headerSize] at hpos
        by_cases ho : e.offset = found.positions.length
        · simp only [ho, ↓reduceIte]
          have hless : data.length - (found.size + n) ≤ fuel := by omega
          rw [ih ⟨found.positions ++ [found.size], found.size + n⟩ (by simp only; omega)
            (by simp only; omega) hless, List.drop_drop]
        · simp only [ho, ↓reduceIte]
          rfl
    · have hnil : data.drop found.size = [] := List.drop_eq_nil_of_le (by omega)
      rw [scanWithin, if_neg hsize, hnil]
      cases fuel <;> rfl

theorem scanWithin_data (data : Bytes) :
    scanWithin (data.length + 1) ⟨[], 0⟩ data = some (scan data) :=
  scanWithin_eq _ (Nat.zero_le _) (Nat.lt_succ_self _) (Nat.le_refl _)

end

end Frame

open SchemaRegistry.Frame (Longest fileOf startsOf)

section

variable {data : Bytes} {rs : List (String × Bytes)}

theorem StreamFile.ofContent_of_longest (h : Longest data rs) :
    ofContent data = (holding rs, fileOf rs) := by
  simp [ofContent, h.scan, holding, (List.prefix_iff_eq_take.1 h.front.isPrefix).symm]

namespace SegmentLog

variable {l : SegmentLog} {stream : String}

theorem lookup_of_longest (h : Longest data rs) (hlimits : l.limits = .none)
    (hname : nameFits (Stem.fileName stream) = true) (hclosed : l.opened.get? stream = none)
    (hfile : l.nodes.get? (Stem.fileName stream) = some (.file data)) (create : Bool) :
    l.lookup stream create = .ok (some ⟨holding rs, none⟩, l.store stream rs) := by
  simp [lookup, hclosed, hname, Table.contains, hfile, openStream,
    readFile_of_file hlimits hname hfile, StreamFile.ofContent_of_longest h, store]

theorem fetch_of_longest (h : Longest data rs) (hlimits : l.limits = .none)
    (hname : nameFits (Stem.fileName stream) = true) (hclosed : l.opened.get? stream = none)
    (hfile : l.nodes.get? (Stem.fileName stream) = some (.file data)) (start max : Nat) :
    l.fetch stream start max =
      (.ok (((MemoryLog.numbered 0 rs).drop start).take max), l.store stream rs) :=
  fetch_of_lookup (lookup_of_longest h hlimits hname hclosed hfile false) hlimits hname
    (by simp [store]) h.front.short h.front.few start max

theorem append_of_longest (h : Longest data rs) (hlimits : l.limits = .none)
    (hname : nameFits (Stem.fileName stream) = true) (hclosed : l.opened.get? stream = none)
    (hfile : l.nodes.get? (Stem.fileName stream) = some (.file data)) {key : String} {value : Bytes}
    (hr : Frame.Short (key, value)) :
    l.append stream key value =
      (.ok rs.length, (l.store stream rs).store stream (rs ++ [(key, value)])) :=
  append_of_lookup (lookup_of_longest h hlimits hname hclosed hfile true) hlimits
    (by simp [store]) hr

end SegmentLog

end

namespace StreamFile

/-- What a file yields when it is opened, whatever its bytes are. -/
structure Recovered (data : Bytes) (rs : List (String × Bytes)) : Prop where
  /-- Nothing outside the data is read, no index overflows, and the scan comes to its end. -/
  within : Frame.scanWithin (data.length + 1) ⟨[], 0⟩ data = some (Frame.scan data)
  size_le : (Frame.scan data).size ≤ data.length
  count_le : rs.length ≤ Frame.offsets
  frames : Frame.encodeFrom? 0 rs = some (data.take (Frame.scan data).size)
  positions : (Frame.scan data).positions = startsOf rs
  longest : ∀ rs' front, rs'.length ≤ Frame.offsets → Frame.encodeFrom? 0 rs' = some front →
    front <+: data → front.length ≤ (Frame.scan data).size
  /-- What was acknowledged is there, whatever follows it. -/
  kept : ∀ acknowledged front, acknowledged.length ≤ Frame.offsets →
    Frame.encodeFrom? 0 acknowledged = some front → front <+: data → acknowledged <+: rs
  opened : ofContent data = (holding rs, fileOf rs)
  fetched : ∀ (l : SegmentLog) (stream : String), l.limits = .none →
    SegmentLog.nameFits (Stem.fileName stream) = true → l.opened.get? stream = none →
    l.nodes.get? (Stem.fileName stream) = some (.file data) → ∀ start max,
      l.fetch stream start max =
        (.ok (((MemoryLog.numbered 0 rs).drop start).take max), l.store stream rs)

theorem recovered_of_longest {data : Bytes} {rs : List (String × Bytes)} (h : Longest data rs) :
    Recovered data rs := by
  have hfile := h.front.isPrefix
  have hfront {rs' : List (String × Bytes)} {front : Bytes} (hn : rs'.length ≤ Frame.offsets)
      (hencode : Frame.encodeFrom? 0 rs' = some front) (hdata : front <+: data) : rs' <+: rs := by
    obtain ⟨hs, rfl⟩ := Frame.encodeFrom?_eq_some.1 hencode
    exact h.longest rs' ⟨hs, hn, hdata⟩
  refine ⟨Frame.scanWithin_data data, ?_, h.front.few, ?_, ?_, ?_, fun _ _ => hfront,
    ofContent_of_longest h, fun _ _ => SegmentLog.fetch_of_longest h⟩
  · rw [h.scan]
    exact hfile.length_le
  · rw [h.scan]
    exact Frame.encodeFrom?_eq_some.2 ⟨h.front.short, List.prefix_iff_eq_take.1 hfile⟩
  · rw [h.scan]
  · intro rs' front hn hencode hdata
    have hle := Frame.fileOf_isPrefix (hfront hn hencode hdata)
    rw [(Frame.encodeFrom?_eq_some.1 hencode).2] at hle
    rw [h.scan]
    exact hle.length_le

/-- Every file yields the records of its longest front that is a file of frames.  Opening it a
second time changes nothing, and of a file that is cut what is left are the records in front of the
cut. -/
theorem exists_recovered (data : Bytes) :
    ∃ rs, Recovered data rs ∧ Recovered (ofContent data).2 rs ∧
      ofContent (ofContent data).2 = ofContent data ∧
      ∀ n, ∃ k, Recovered (data.take n) (rs.take k) ∧
        ∀ i < rs.length, i < k ↔ (fileOf (rs.take (i + 1))).length ≤ n := by
  obtain ⟨rs, h, -⟩ := Frame.exists_longest data
  have hopened := ofContent_of_longest h
  refine ⟨rs, recovered_of_longest h, ?_, ?_, fun n => ?_⟩
  · rw [hopened]
    exact recovered_of_longest h.fileOf
  · rw [hopened]
    exact ofContent_of_longest h.fileOf
  · obtain ⟨rs', h', -⟩ := Frame.exists_longest (data.take n)
    obtain ⟨hrs', hcut⟩ := h.take h'
    refine ⟨rs'.length, ?_, hcut⟩
    rw [← hrs']
    exact recovered_of_longest h'

example :
    let torn := Frame.bytes ⟨0, "schema", [1]⟩ ++ (Frame.bytes ⟨1, "schema", [2]⟩).take 14
    ofContent torn = (holding [("schema", [1])], Frame.bytes ⟨0, "schema", [1]⟩) := by
  decide +kernel

end StreamFile

end SchemaRegistry
