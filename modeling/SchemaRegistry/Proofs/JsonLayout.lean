import Mathlib.Data.List.TakeWhile
import SchemaRegistry.Proofs.Json

/-!
Objects that are written are read by their layout, member by member: one that is a field changes
what has been read so far, and any other is stepped over.
-/

namespace SchemaRegistry.Json

inductive Ends : Bytes → Prop
  | comma (s : Bytes) : Ends (44 :: s)
  | brace (s : Bytes) : Ends (125 :: s)

theorem ends_writeMembers (ms : List (String × Bytes)) (s : Bytes) :
    Ends (writeMembers false ms ++ 125 :: s) := by
  cases ms with
  | nil => exact .brace s
  | cons m ms =>
    rw [writeMembers_cons_append]
    exact .comma _

def Reads {α : Type} (reader : Reader α) (value : Bytes) (a : α) : Prop :=
  ∀ rest, Ends rest → reader (value ++ rest) = .ok (a, rest)

def Skipped (value : Bytes) : Prop := ∀ rest, Ends rest → skipValue (value ++ rest) = .ok rest

theorem reads_writeString (expected s : String) : Reads (readString expected) (writeString s) s :=
  fun rest _ => readString_write expected s rest

theorem reads_writeBool (b : Bool) : Reads readBool (writeBool b) b := by
  intro rest _
  cases b <;> rfl

theorem skipped_null : Skipped [110, 117, 108, 108] := by
  rintro _ (⟨s⟩ | ⟨s⟩) <;> rfl

theorem Reads.field {α σ : Type} {reader : Reader α} {value : Bytes} {a : α}
    (h : Reads reader value a) (name : String) (set : α → σ → σ) :
    Reads (Field.of name reader set).reader value (set a) := by
  intro rest hrest
  simp only [Field.of, h rest hrest, bind, Except.bind]
  rfl

namespace Layout

variable {σ : Type} {l : Layout σ} {met : List String} {acc a : σ} {ms : List (String × Bytes)}

/-- Members, of which the names in `met` come before them, change `acc` to `a`. -/
inductive Takes (l : Layout σ) : List String → σ → List (String × Bytes) → σ → Prop
  | nil {met : List String} {acc : σ} (h : l.missing? met = none) : Takes l met acc [] acc
  | field {met : List String} {acc a : σ} {m : String × Bytes} {ms : List (String × Bytes)}
    {f : Field σ} {change : σ → σ} (hfield : l.fields.find? (·.name = m.1) = some f)
    (hmet : met.contains m.1 = false) (hvalue : Reads f.reader m.2 change)
    (h : Takes l (m.1 :: met) (change acc) ms a) : Takes l met acc (m :: ms) a
  | other {met : List String} {acc a : σ} {m : String × Bytes} {ms : List (String × Bytes)}
    (hname : l.fields.find? (·.name = m.1) = none) (hvalue : Skipped m.2)
    (h : Takes l met acc ms a) : Takes l met acc (m :: ms) a

theorem Takes.others {before : List (String × Bytes)}
    (hbefore : ∀ m ∈ before, l.fields.find? (·.name = m.1) = none ∧ Skipped m.2)
    (h : l.Takes met acc ms a) : l.Takes met acc (before ++ ms) a := by
  induction before with
  | nil => exact h
  | cons m before ih =>
    obtain ⟨⟨hname, hvalue⟩, hbefore⟩ := List.forall_mem_cons.1 hbefore
    exact .other hname hvalue (ih hbefore)

theorem Takes.readNamed (h : l.Takes met acc ms a) (first : Bool) (rest : Bytes) {fuel : Nat}
    (hfuel : ms.length < fuel) :
    l.readNamed fuel first met acc (writeMembers first ms ++ 125 :: rest) =
      .ok (.ok a, 125 :: rest) := by
  induction h generalizing first fuel with
  | nil hmissing =>
    cases fuel with
    | zero => cases hfuel
    | succ fuel =>
      simp only [writeMembers, List.nil_append, Layout.readNamed, nextMember_brace, bind,
        Except.bind, hmissing]
      rfl
  | @field met acc a m ms f change hfield hmet hvalue _ ih =>
    cases fuel with
    | zero => cases hfuel
    | succ fuel =>
      have hread := hvalue _ (ends_writeMembers ms rest)
      simp only [writeMembers_cons_append, Layout.readNamed, nextMember_write, bind, Except.bind,
        readStringBody_write, hfield, hmet, readColon_write, hread, Bool.false_eq_true, ↓reduceIte]
      exact ih false (Nat.lt_of_succ_lt_succ hfuel)
  | @other met acc a m ms hname hvalue _ ih =>
    cases fuel with
    | zero => cases hfuel
    | succ fuel =>
      have hskip := hvalue _ (ends_writeMembers ms rest)
      simp only [writeMembers_cons_append, Layout.readNamed, nextMember_write, bind, Except.bind,
        readStringBody_write, hname, readColon_write, hskip]
      exact ih false (Nat.lt_of_succ_lt_succ hfuel)

theorem Takes.reads (h : l.Takes [] l.start ms a) (rest : Bytes) :
    l.read (writeObject ms ++ rest) = .ok (a, rest) := by
  have hfuel : ms.length < (writeMembers true ms ++ 125 :: rest).length + 1 := by
    have := length_le_writeMembers true ms
    rw [List.length_append]
    omega
  have hopen (s : Bytes) : skipBlank (123 :: s) = 123 :: s := rfl
  have hbracket : ¬ (123 : UInt8) = 91 := by decide
  have hwritten : writeObject ms ++ rest = 123 :: (writeMembers true ms ++ 125 :: rest) := by
    rw [writeObject_eq, List.cons_append, List.append_assoc]
    rfl
  simp only [read, hwritten, hopen, hbracket, ↓reduceIte, h.readNamed true rest hfuel, bind,
    Except.bind]
  rfl

theorem Takes.readAll (h : l.Takes [] l.start ms a) {blanks : Bytes}
    (hblanks : ∀ b ∈ blanks, isBlank b) :
    Json.readAll l.read (writeObject ms ++ blanks) = .ok a := by
  have hend : readEnd blanks = .ok () := by
    have hskip : skipBlank blanks = [] := List.dropWhile_eq_nil_iff.2 hblanks
    rw [readEnd, hskip]
  simp only [Json.readAll, h.reads blanks, bind, Except.bind, hend]
  rfl

end Layout

end SchemaRegistry.Json
