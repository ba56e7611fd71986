import SchemaRegistry.Store.Versions

namespace SchemaRegistry

structure Stored where
  subject : String
  id : Int
  text : String
  deriving DecidableEq, Repr

namespace Stored

/-- Schemas as versions of one subject, the first of them behind version `n`. -/
def versions : (n : Nat) → List Stored → List Schema
  | _, [] => []
  | n, x :: xs => ⟨x.subject, x.id, n + 1, x.text⟩ :: versions (n + 1) xs

theorem versions_append (n : Nat) (xs ys : List Stored) :
    versions n (xs ++ ys) = versions n xs ++ versions (n + xs.length) ys := by
  induction xs generalizing n with
  | nil => rfl
  | cons x xs ih => simp [versions, ih, Nat.add_assoc, Nat.add_comm 1]

theorem map_version_versions (n : Nat) (xs : List Stored) :
    (versions n xs).map (·.version) = List.range' (n + 1) xs.length := by
  induction xs generalizing n with
  | nil => rfl
  | cons x xs ih => simp [versions, ih, List.range'_succ]

theorem map_text_versions (n : Nat) (xs : List Stored) :
    (versions n xs).map (·.text) = xs.map (·.text) := by
  induction xs generalizing n with
  | nil => rfl
  | cons x xs ih => simp [versions, ih]

theorem lt_version {n : Nat} {xs : List Stored} {s : Schema} (h : s ∈ versions n xs) :
    n < s.version := by
  induction xs generalizing n with
  | nil => simp [versions] at h
  | cons x xs ih =>
    rcases List.mem_cons.1 h with rfl | h
    · exact Nat.lt_succ_self n
    · exact Nat.lt_trans (Nat.lt_succ_self n) (ih h)

theorem exists_of_mem_versions {n : Nat} {xs : List Stored} {s : Schema} (h : s ∈ versions n xs) :
    ∃ x ∈ xs, x.id = s.id ∧ x.text = s.text := by
  induction xs generalizing n with
  | nil => simp [versions] at h
  | cons x xs ih =>
    rcases List.mem_cons.1 h with rfl | h
    · exact ⟨x, List.mem_cons_self, rfl, rfl⟩
    · obtain ⟨y, hy, hsame⟩ := ih h
      exact ⟨y, List.mem_cons_of_mem _ hy, hsame⟩

theorem exists_mem_versions {xs : List Stored} {x : Stored} (h : x ∈ xs) (n : Nat) :
    ∃ s ∈ versions n xs, s.id = x.id := by
  induction xs generalizing n with
  | nil => simp at h
  | cons y xs ih =>
    rcases List.mem_cons.1 h with rfl | h
    · exact ⟨_, List.mem_cons_self, rfl⟩
    · obtain ⟨s, hs, hsame⟩ := ih h (n + 1)
      exact ⟨s, List.mem_cons_of_mem _ hs, hsame⟩

theorem greatest_versions (xs : List Stored) : Versions.greatest (versions 0 xs) = xs.length := by
  have hfold (n : Nat) :
      (versions n xs).foldl (fun m s => max m s.version) n = n + xs.length := by
    induction xs generalizing n with
    | nil => rfl
    | cons x xs ih =>
      simp only [versions, List.foldl_cons, List.length_cons]
      rw [Nat.max_eq_right (Nat.le_succ n), ih]
      omega
  rw [Versions.greatest, hfold, Nat.zero_add]

theorem find?_version (n k : Nat) (xs : List Stored) :
    (versions n xs).find? (·.version = n + k + 1) = (versions n xs)[k]? := by
  induction xs generalizing n k with
  | nil => rfl
  | cons x xs ih =>
    cases k with
    | zero => simp [versions]
    | succ k =>
      rw [versions, List.find?_cons_of_neg (by simp), List.getElem?_cons_succ, ← ih]
      congr 2
      funext s
      rw [Nat.add_right_comm n 1 k]
      rfl

theorem getLast?_versions (n : Nat) (xs : List Stored) :
    (versions n xs).getLast? =
      xs.getLast?.map fun x => ⟨x.subject, x.id, n + xs.length, x.text⟩ := by
  rcases List.eq_nil_or_concat xs with rfl | ⟨xs, x, rfl⟩
  · rfl
  · simp [versions_append, versions, Nat.add_assoc]

theorem find?_text_eq_none {n : Nat} {xs : List Stored} {text : String} :
    (versions n xs).find? (·.text = text) = none ↔ ∀ x ∈ xs, x.text ≠ text := by
  have hmap := map_text_versions n xs
  rw [List.find?_eq_none]
  calc
    (∀ s ∈ versions n xs, ¬ decide (s.text = text) = true) ↔
        ∀ t ∈ (versions n xs).map (·.text), t ≠ text := by simp
    _ ↔ ∀ x ∈ xs, x.text ≠ text := by simp [hmap]

theorem find?_text_versions (n : Nat) (xs : List Stored) (text : String) :
    ((versions n xs).find? (·.text = text)).map (·.id) =
      (xs.find? (·.text = text)).map (·.id) := by
  induction xs generalizing n with
  | nil => rfl
  | cons x xs ih =>
    by_cases htext : x.text = text
    · simp [versions, htext]
    · simpa [versions, htext] using ih (n + 1)

def later (best : Option Schema) (s : Schema) : Option Schema :=
  match best with
  | some b => if b.version ≤ s.version then some s else some b
  | none => some s

def earlier (best : Option Schema) (s : Schema) : Option Schema :=
  match best with
  | some b => if s.version < b.version then some s else some b
  | none => some s

theorem foldl_later (best : Option Schema) (n : Nat) (h : ∀ b ∈ best, b.version ≤ n)
    (xs : List Stored) : (versions n xs).foldl later best = (versions n xs).getLast?.or best := by
  induction xs generalizing n best with
  | nil => rfl
  | cons x xs ih =>
    have hlater : later best ⟨x.subject, x.id, n + 1, x.text⟩ =
        some ⟨x.subject, x.id, n + 1, x.text⟩ := by
      cases best with
      | none => rfl
      | some b => exact if_pos (Nat.le_succ_of_le (h b rfl))
    rw [versions, List.foldl_cons, hlater, ih _ _ (by simp), List.getLast?_cons]
    cases (versions (n + 1) xs).getLast? <;> rfl

theorem latest?_versions (xs : List Stored) :
    Versions.latest? (versions 0 xs) = (versions 0 xs).getLast? := by
  have hfold := foldl_later none 0 (by simp) xs
  rw [Option.or_none] at hfold
  exact hfold

theorem foldl_earlier {b : Schema} {ss : List Schema} (h : ∀ s ∈ ss, b.version < s.version) :
    ss.foldl earlier (some b) = some b := by
  induction ss with
  | nil => rfl
  | cons s ss ih =>
    obtain ⟨hs, hrest⟩ := List.forall_mem_cons.1 h
    rw [List.foldl_cons, show earlier (some b) s = some b from if_neg (Nat.lt_asymm hs), ih hrest]

theorem earliest?_versions (xs : List Stored) (text : String) :
    Versions.earliest? (versions 0 xs) text = (versions 0 xs).find? (·.text = text) := by
  have hfold (n : Nat) : ((versions n xs).filter (·.text = text)).foldl earlier none =
      (versions n xs).find? (·.text = text) := by
    induction xs generalizing n with
    | nil => rfl
    | cons x xs ih =>
      by_cases htext : x.text = text
      · rw [versions, List.filter_cons_of_pos (by simpa), List.find?_cons_of_pos (by simpa),
          List.foldl_cons]
        exact foldl_earlier fun s hs => lt_version (List.mem_filter.1 hs).1
      · rw [versions, List.filter_cons_of_neg (by simpa), List.find?_cons_of_neg (by simpa)]
        exact ih (n + 1)
  exact hfold 0

theorem eq_of_id_eq {xs : List Stored} (h : xs.Pairwise (·.id < ·.id)) {x y : Stored} (hx : x ∈ xs)
    (hy : y ∈ xs) (hid : x.id = y.id) : x = y := by
  obtain ⟨i, hi, rfl⟩ := List.mem_iff_getElem.1 hx
  obtain ⟨j, hj, rfl⟩ := List.mem_iff_getElem.1 hy
  rw [List.pairwise_iff_getElem] at h
  rcases Nat.lt_trichotomy i j with hij | rfl | hij
  · have := h i j hi hj hij
    omega
  · rfl
  · have := h j i hj hi hij
    omega

end Stored

end SchemaRegistry
