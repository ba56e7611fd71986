import SchemaRegistry.Log.StreamFile
import SchemaRegistry.Proofs.Frame

namespace SchemaRegistry.StreamFile

open SchemaRegistry.Frame (Short fileOf startsOf)

def holding (rs : List (String × Bytes)) : StreamFile :=
  ⟨startsOf rs, (fileOf rs).length, false, []⟩

@[simp] theorem length_positions_holding (rs : List (String × Bytes)) :
    (holding rs).positions.length = rs.length := by
  simp [holding, startsOf]

theorem fileOf_concat (rs : List (String × Bytes)) (r : String × Bytes) :
    fileOf (rs ++ [r]) = fileOf rs ++ Frame.bytes ⟨rs.length, r.1, r.2⟩ := by
  simp [fileOf, MemoryLog.numbered_append, MemoryLog.numbered]

theorem startsOf_concat (rs : List (String × Bytes)) (r : String × Bytes) :
    startsOf (rs ++ [r]) = startsOf rs ++ [(fileOf rs).length] := by
  simp [startsOf, MemoryLog.numbered_append, MemoryLog.numbered, Frame.startsFrom_append,
    Frame.startsFrom]

theorem ofContent_append {rs : List (String × Bytes)} {rest : Bytes} {fault : Frame.Fault}
    (hs : ∀ r ∈ rs, Short r) (hn : rs.length ≤ Frame.offsets)
    (hrest : Frame.decode rest = .error fault) :
    ofContent (fileOf rs ++ rest) = (holding rs, fileOf rs) := by
  simp [ofContent, Frame.scan_fileOf hs hn hrest, holding]

theorem ofContent_fileOf {rs : List (String × Bytes)} (hs : ∀ r ∈ rs, Short r)
    (hn : rs.length ≤ Frame.offsets) : ofContent (fileOf rs) = (holding rs, fileOf rs) := by
  have : ofContent (fileOf rs ++ []) = (holding rs, fileOf rs) := ofContent_append hs hn rfl
  rwa [List.append_nil] at this

theorem getElem?_positions {rs : List (String × Bytes)} {n : Nat} (h : n < rs.length) :
    (holding rs).positions[n]? = some (Frame.file ((MemoryLog.numbered 0 rs).take n)).length := by
  rw [holding, startsOf, Frame.getElem?_startsFrom _ (by simpa), Nat.zero_add]

theorem getD_positions (rs : List (String × Bytes)) (n : Nat) :
    ((holding rs).positions[n]?).getD (holding rs).size =
      (Frame.file ((MemoryLog.numbered 0 rs).take n)).length := by
  by_cases h : n < rs.length
  · rw [getElem?_positions h]
    rfl
  · have hlen : (holding rs).positions.length ≤ n := by simp; omega
    rw [List.getElem?_eq_none hlen, List.take_of_length_le (by simp; omega)]
    rfl

theorem range?_holding (rs : List (String × Bytes)) (start max : Nat) :
    (holding rs).range? start max =
      if max = 0 ∨ rs.length ≤ start then none
      else
        let es := MemoryLog.numbered 0 rs
        let last := min rs.length (start + max)
        some ((Frame.file (es.take start)).length, (Frame.file (es.take last)).length,
          last - start) := by
  by_cases hmax : max = 0
  · simp [range?, hmax]
  by_cases hstart : start < rs.length
  · simp [range?, hmax, getElem?_positions hstart, getD_positions,
      show ¬ rs.length ≤ start by omega]
  · have hnone : (holding rs).positions[start]? = none :=
      List.getElem?_eq_none (by simp; omega)
    simp only [range?, hmax, ↓reduceIte, hnone, false_or, show rs.length ≤ start by omega]

section Append

variable (rs : List (String × Bytes)) {key : String} {value : Bytes}
  (fault : Bytes → Option WriteFault)

theorem append_of_refused {f : StreamFile} (h : f.refused = true) (content : Bytes) :
    f.append content key value fault = (.error .inconsistent, f, content) := by
  simp [append, h]

theorem append_of_not_short (h : ¬ Short (key, value)) :
    (holding rs).append (fileOf rs) key value fault =
      (.error (.tooLarge ((utf8 key).length + value.length)), holding rs, fileOf rs) := by
  have hencode := Frame.encode?_of_not_short (e := ⟨rs.length, key, value⟩) h
  simp only [append, length_positions_holding, hencode]
  rfl

theorem append_of_short (h : Short (key, value)) :
    (holding rs).append (fileOf rs) key value fault =
      let frame := Frame.bytes ⟨rs.length, key, value⟩
      let (r, f, content) := (holding rs).write (fileOf rs) frame (fault frame)
      (r.mapError .file, f, content) := by
  have hencode := Frame.encode?_of_short (e := ⟨rs.length, key, value⟩) h
  simp only [append, length_positions_holding, hencode]
  rfl

theorem write_holding :
    (holding rs).write (fileOf rs) (Frame.bytes ⟨rs.length, key, value⟩) none =
      (.ok rs.length, holding (rs ++ [(key, value)]), fileOf (rs ++ [(key, value)])) := by
  simp [write, holding, fileOf_concat, startsOf_concat]

theorem write_undone (frame : Bytes) {w : WriteFault} (h : w.rollback = none) :
    (holding rs).write (fileOf rs) frame (some w) = (.error w.cause, holding rs, fileOf rs) := by
  simp [write, h, holding, resize]

end Append

end SchemaRegistry.StreamFile
