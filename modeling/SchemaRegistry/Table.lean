import SchemaRegistry.Text.Bytes

/-!
Tables keyed by text, in the byte order of their keys.  The view is `get?`; each operation has one
equation through it.  Listing a table from a key on is what a range scan sees.
-/

namespace SchemaRegistry

def KeyLt (a b : String) : Prop := utf8 a < utf8 b

instance : DecidableRel KeyLt := fun a b => inferInstanceAs (Decidable (utf8 a < utf8 b))

instance byteLtTrans : Trans (α := UInt8) (· < ·) (· < ·) (· < ·) := ⟨UInt8.lt_trans⟩

theorem KeyLt.trans {a b c : String} (h : KeyLt a b) (h' : KeyLt b c) : KeyLt a c :=
  List.lt_trans h h'

theorem KeyLt.irrefl (a : String) : ¬ KeyLt a a := List.lt_irrefl _

theorem KeyLt.ne {a b : String} (h : KeyLt a b) : a ≠ b := fun e => KeyLt.irrefl b (e ▸ h)

theorem KeyLt.of_not {a b : String} (hne : a ≠ b) (h : ¬ KeyLt a b) : KeyLt b a := by
  have hle : utf8 b ≤ utf8 a := List.not_lt.1 h
  rcases List.le_iff_lt_or_eq.1 hle with h | h
  · exact h
  · exact absurd (utf8_injective h).symm hne

namespace Table

variable {α : Type}

def insertEntry (k : String) (v : α) : List (String × α) → List (String × α)
  | [] => [(k, v)]
  | (k', v') :: rest =>
    if k = k' then (k, v) :: rest
    else if KeyLt k k' then (k, v) :: (k', v') :: rest
    else (k', v') :: insertEntry k v rest

theorem mem_insertEntry {k : String} {v : α} {es : List (String × α)} {e : String × α}
    (h : e ∈ insertEntry k v es) : e = (k, v) ∨ e ∈ es := by
  induction es with
  | nil => simpa [insertEntry] using h
  | cons e' es ih =>
    obtain ⟨k', v'⟩ := e'
    simp only [insertEntry] at h
    split at h
    · rcases List.mem_cons.1 h with h | h
      · exact .inl h
      · exact .inr (List.mem_cons_of_mem _ h)
    · split at h
      · rcases List.mem_cons.1 h with h | h
        · exact .inl h
        · exact .inr h
      · rcases List.mem_cons.1 h with h | h
        · exact .inr (h ▸ List.mem_cons_self)
        · exact (ih h).imp_right (List.mem_cons_of_mem _)

theorem pairwise_insertEntry {k : String} {v : α} {es : List (String × α)}
    (h : es.Pairwise fun a b => KeyLt a.1 b.1) :
    (insertEntry k v es).Pairwise fun a b => KeyLt a.1 b.1 := by
  induction es with
  | nil => simp [insertEntry]
  | cons e es ih =>
    obtain ⟨k', v'⟩ := e
    have ⟨hhead, htail⟩ := List.pairwise_cons.1 h
    simp only [insertEntry]
    split
    · next heq => subst heq; exact List.pairwise_cons.2 ⟨hhead, htail⟩
    · next hne =>
      split
      · next hlt =>
        refine List.pairwise_cons.2 ⟨fun e he => ?_, h⟩
        rcases List.mem_cons.1 he with rfl | he
        · exact hlt
        · exact hlt.trans (hhead e he)
      · next hlt =>
        refine List.pairwise_cons.2 ⟨fun e he => ?_, ih htail⟩
        rcases mem_insertEntry he with rfl | he
        · exact KeyLt.of_not hne hlt
        · exact hhead e he

end Table

structure Table (α : Type) where
  entries : List (String × α)
  ordered : entries.Pairwise fun a b => KeyLt a.1 b.1

namespace Table

variable {α : Type}

instance [DecidableEq α] : DecidableEq (Table α) := fun a b =>
  if h : a.entries = b.entries then isTrue (by cases a; cases b; simp_all)
  else isFalse fun e => h (e ▸ rfl)

instance : EmptyCollection (Table α) := ⟨⟨[], .nil⟩⟩

instance : Inhabited (Table α) := ⟨∅⟩

@[ext] theorem ext {t u : Table α} (h : t.entries = u.entries) : t = u := by
  cases t; cases u; simp_all

def get? (t : Table α) (k : String) : Option α := t.entries.lookup k

def contains (t : Table α) (k : String) : Bool := (t.get? k).isSome

def insert (t : Table α) (k : String) (v : α) : Table α :=
  ⟨insertEntry k v t.entries, pairwise_insertEntry t.ordered⟩

def erase (t : Table α) (k : String) : Table α :=
  ⟨t.entries.filter (·.1 ≠ k), t.ordered.filter _⟩

def keys (t : Table α) : List String := t.entries.map (·.1)

def values (t : Table α) : List α := t.entries.map (·.2)

def isEmpty (t : Table α) : Bool := t.entries.isEmpty

def size (t : Table α) : Nat := t.entries.length

def listFrom (t : Table α) (start : String) : List (String × α) :=
  t.entries.filter fun e => ¬ KeyLt e.1 start

def ofList (es : List (String × α)) : Table α := es.foldl (fun t e => t.insert e.1 e.2) ∅

@[simp] theorem get?_empty (k : String) : (∅ : Table α).get? k = none := rfl

theorem lookup_cons_ite (k : String) (e : String × α) (es : List (String × α)) :
    (e :: es).lookup k = if k = e.1 then some e.2 else es.lookup k := by
  obtain ⟨j, w⟩ := e
  by_cases h : k = j
  · simp [h]
  · have : (k == j) = false := by simp [h]
    simp [List.lookup_cons, h, this]

theorem lookup_insertEntry (k k' : String) (v : α) (es : List (String × α)) :
    (insertEntry k v es).lookup k' = if k' = k then some v else es.lookup k' := by
  induction es with
  | nil => simp [insertEntry, lookup_cons_ite]
  | cons e es ih =>
    obtain ⟨j, w⟩ := e
    simp only [insertEntry]
    split
    · next h => subst h; simp only [lookup_cons_ite]; split <;> rfl
    · next hne =>
      split
      · simp only [lookup_cons_ite]
      · simp only [lookup_cons_ite, ih]
        by_cases hj : k' = j
        · simp [hj, Ne.symm hne]
        · simp [hj]

theorem get?_insert (t : Table α) (k k' : String) (v : α) :
    (t.insert k v).get? k' = if k' = k then some v else t.get? k' :=
  lookup_insertEntry k k' v t.entries

@[simp] theorem get?_insert_self (t : Table α) (k : String) (v : α) :
    (t.insert k v).get? k = some v := by simp [get?_insert]

theorem get?_insert_of_ne (t : Table α) {k k' : String} (v : α) (h : k' ≠ k) :
    (t.insert k v).get? k' = t.get? k' := by simp [get?_insert, h]

theorem get?_erase (t : Table α) (k k' : String) :
    (t.erase k).get? k' = if k' = k then none else t.get? k' := by
  obtain ⟨es, h⟩ := t
  simp only [get?, erase]
  clear h
  induction es with
  | nil => simp
  | cons e es ih =>
    obtain ⟨j, w⟩ := e
    simp only [List.filter_cons, lookup_cons_ite]
    by_cases hj : j = k
    · subst hj
      simp only [ne_eq, not_true_eq_false, decide_false, Bool.false_eq_true, ↓reduceIte, ih]
      split <;> rfl
    · simp only [ne_eq, hj, not_false_eq_true, decide_true, ↓reduceIte, lookup_cons_ite, ih]
      by_cases h' : k' = j
      · subst h'; simp [hj]
      · simp [h']

end Table

end SchemaRegistry
