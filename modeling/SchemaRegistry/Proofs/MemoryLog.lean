import SchemaRegistry.Log.Memory

/-! Laws of the log in memory: its entries are its records, numbered from zero. -/

namespace SchemaRegistry

section

variable {α : Type} {xs : List α} {n : Nat}

theorem take_add_length_batch (xs : List α) (n max : Nat) :
    xs.take (n + ((xs.drop n).take max).length) = xs.take n ++ (xs.drop n).take max := by
  rw [List.take_add, List.length_take, ← List.take_eq_take_min]

theorem add_length_batch_le (h : n ≤ xs.length) (max : Nat) :
    n + ((xs.drop n).take max).length ≤ xs.length := by
  rw [List.length_take, List.length_drop]
  omega

end

namespace MemoryLog

@[simp] theorem length_numbered (n : Nat) (rs : List (String × Bytes)) :
    (numbered n rs).length = rs.length := by
  induction rs generalizing n with
  | nil => rfl
  | cons r rs ih => simp [numbered, ih]

theorem numbered_append (n : Nat) (rs ss : List (String × Bytes)) :
    numbered n (rs ++ ss) = numbered n rs ++ numbered (n + rs.length) ss := by
  induction rs generalizing n with
  | nil => rfl
  | cons r rs ih => simp [numbered, ih, Nat.add_assoc, Nat.add_comm 1]

theorem take_numbered (n k : Nat) (rs : List (String × Bytes)) :
    (numbered n rs).take k = numbered n (rs.take k) := by
  induction rs generalizing n k with
  | nil => simp [numbered]
  | cons r rs ih => cases k <;> simp [numbered, ih]

theorem drop_numbered (n k : Nat) (rs : List (String × Bytes)) :
    (numbered n rs).drop k = numbered (n + k) (rs.drop k) := by
  induction rs generalizing n k with
  | nil => simp [numbered]
  | cons r rs ih =>
    cases k with
    | zero => rfl
    | succ k => simp [numbered, ih, Nat.add_assoc, Nat.add_comm 1]

theorem mem_numbered {n : Nat} {rs : List (String × Bytes)} {e : Entry}
    (h : e ∈ numbered n rs) : (e.key, e.value) ∈ rs ∧ n ≤ e.offset ∧ e.offset < n + rs.length := by
  induction rs generalizing n with
  | nil => simp [numbered] at h
  | cons r rs ih =>
    rcases List.mem_cons.1 h with rfl | h
    · simp
    · have ⟨hmem, hlow, hhigh⟩ := ih h
      exact ⟨List.mem_cons_of_mem _ hmem, by omega, by simp only [List.length_cons]; omega⟩

theorem map_offset_numbered (n : Nat) (rs : List (String × Bytes)) :
    (numbered n rs).map (·.offset) = List.range' n rs.length := by
  induction rs generalizing n with
  | nil => rfl
  | cons r rs ih => simp [numbered, ih, List.range'_succ]

@[simp] theorem map_record_numbered (n : Nat) (rs : List (String × Bytes)) :
    (numbered n rs).map (fun e => (e.key, e.value)) = rs := by
  induction rs generalizing n with
  | nil => rfl
  | cons r rs ih => simp [numbered, ih]

def entries (l : MemoryLog) (stream : String) : List Entry := numbered 0 (l.records stream)

@[simp] theorem length_entries (l : MemoryLog) (stream : String) :
    (l.entries stream).length = l.length stream :=
  length_numbered ..

theorem offset_of_getElem? {l : MemoryLog} {stream : String} {i : Nat} {e : Entry}
    (h : (l.entries stream)[i]? = some e) : e.offset = i := by
  obtain ⟨hi, rfl⟩ := List.getElem?_eq_some_iff.1 h
  have hmap := congrArg (·[i]?) (map_offset_numbered 0 (l.records stream))
  simp only [List.getElem?_map] at hmap
  rw [show (numbered 0 (l.records stream))[i]? = some (l.entries stream)[i] from
    List.getElem?_eq_getElem hi, List.getElem?_range' (by simpa [entries] using hi)] at hmap
  simpa using hmap

theorem fetch_eq (l : MemoryLog) (stream : String) (start max : Nat) :
    l.fetch stream start max = ((l.entries stream).drop start).take max := by
  rw [fetch, entries, drop_numbered, take_numbered, Nat.zero_add]

theorem length_fetch (l : MemoryLog) (stream : String) (start max : Nat) :
    (l.fetch stream start max).length = min max (l.length stream - start) := by
  rw [fetch_eq, List.length_take, List.length_drop, length_entries]

theorem fetch_eq_take (l : MemoryLog) (stream : String) (start max : Nat) :
    l.fetch stream start max =
      ((l.entries stream).drop start).take (l.fetch stream start max).length := by
  rw [length_fetch, fetch_eq, ← length_entries, ← List.length_drop, ← List.take_eq_take_min]

theorem entries_append (l : MemoryLog) (stream key : String) (value : Bytes) (s : String) :
    (l.append stream key value).2.entries s =
      if s = stream then l.entries stream ++ [⟨l.length stream, key, value⟩] else l.entries s := by
  rw [entries, records_append]
  split
  · simp [numbered_append, numbered, entries, length]
  · rfl

end MemoryLog

end SchemaRegistry
