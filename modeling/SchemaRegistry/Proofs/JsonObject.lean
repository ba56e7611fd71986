import SchemaRegistry.Json.Typed
import SchemaRegistry.Proofs.JsonString

/-!
Documents that hold one object of strings, as characters.  What is read as such an object is exactly
what is one, with the members in their order, blanks wherever JSON allows them, and names that may
come twice.
-/

namespace SchemaRegistry.Json

def Blank (cs : List Char) : Prop := ∀ c ∈ cs, c ∈ [' ', '\n', '\t', '\r']

inductive Literal : List Char → String → Prop
  | quoted {cs : List Char} {text : String} (h : Spells cs text.toList) :
    Literal ('"' :: cs ++ ['"']) text

inductive Member : List Char → String × String → Prop
  | colon {name bs bs' value : List Char} {n v : String} (hname : Literal name n) (hbs : Blank bs)
    (hbs' : Blank bs') (hvalue : Literal value v) :
    Member (name ++ bs ++ ':' :: bs' ++ value) (n, v)

inductive Members : List Char → List (String × String) → Prop
  | close {bs : List Char} (hbs : Blank bs) : Members (bs ++ ['}']) []
  | comma {bs bs' cs ds : List Char} {m : String × String} {ms : List (String × String)}
    (hbs : Blank bs) (hbs' : Blank bs') (hm : Member cs m) (hms : Members ds ms) :
    Members (bs ++ ',' :: bs' ++ cs ++ ds) (m :: ms)

inductive Object : List Char → List (String × String) → Prop
  | empty {bs : List Char} (hbs : Blank bs) : Object ('{' :: bs ++ ['}']) []
  | members {bs cs ds : List Char} {m : String × String} {ms : List (String × String)}
    (hbs : Blank bs) (hm : Member cs m) (hms : Members ds ms) :
    Object ('{' :: bs ++ cs ++ ds) (m :: ms)

inductive Document : List Char → List (String × String) → Prop
  | object {bs cs bs' : List Char} {ms : List (String × String)} (hbs : Blank bs)
    (hcs : Object cs ms) (hbs' : Blank bs') : Document (bs ++ cs ++ bs') ms

theorem exists_blank_char : ∀ b : UInt8, isBlank b = true →
    ∃ c ∈ [' ', '\n', '\t', '\r'], String.utf8EncodeChar c = [b] := by
  have hall : ∀ n < 256, isBlank (UInt8.ofNat n) = true →
      Char.ofNat n ∈ [' ', '\n', '\t', '\r'] ∧
      String.utf8EncodeChar (Char.ofNat n) = [UInt8.ofNat n] := by
    decide +kernel
  exact Bytes.forall_of_lt fun n hn hblank => ⟨_, hall n hn hblank⟩

theorem encode_blank : ∀ c ∈ [' ', '\n', '\t', '\r'],
    String.utf8EncodeChar c = [UInt8.ofNat c.toNat] ∧ isBlank (UInt8.ofNat c.toNat) = true := by
  intro c hc
  simp only [List.mem_cons, List.not_mem_nil, or_false] at hc
  rcases hc with rfl | rfl | rfl | rfl <;> decide

theorem exists_blank (s : Bytes) : ∃ bs, Blank bs ∧ s = encode bs ++ skipBlank s := by
  induction s with
  | nil => exact ⟨[], nofun, rfl⟩
  | cons b s ih =>
    by_cases hb : isBlank b
    · obtain ⟨bs, hbs, hs⟩ := ih
      obtain ⟨c, hc, hbyte⟩ := exists_blank_char b hb
      refine ⟨c :: bs, List.forall_mem_cons.2 ⟨hc, hbs⟩, ?_⟩
      rw [encode_cons, hbyte, List.cons_append, skipBlank, List.dropWhile_cons_of_pos hb]
      exact congrArg (b :: ·) hs
    · exact ⟨[], nofun, (List.dropWhile_cons_of_neg hb).symm⟩

theorem Blank.skip {bs : List Char} (h : Blank bs) (s : Bytes) :
    skipBlank (encode bs ++ s) = skipBlank s := by
  induction bs with
  | nil => rfl
  | cons c bs ih =>
    obtain ⟨hc, hbs⟩ := List.forall_mem_cons.1 h
    obtain ⟨hbyte, hb⟩ := encode_blank c hc
    rw [encode_cons, hbyte]
    exact (List.dropWhile_cons_of_pos hb).trans (ih hbs)

theorem skipBlank_eq_cons {s t : Bytes} {b : UInt8} (hb : isBlank b = false) :
    skipBlank s = b :: t ↔ ∃ bs, Blank bs ∧ s = encode bs ++ b :: t := by
  constructor
  · intro h
    obtain ⟨bs, hbs, hs⟩ := exists_blank s
    exact ⟨bs, hbs, h ▸ hs⟩
  · rintro ⟨bs, hbs, rfl⟩
    rw [hbs.skip, skipBlank, List.dropWhile_cons_of_neg (by simp [hb])]

theorem skipBlank_eq_nil {s : Bytes} : skipBlank s = [] ↔ ∃ bs, Blank bs ∧ s = encode bs := by
  constructor
  · intro h
    obtain ⟨bs, hbs, hs⟩ := exists_blank s
    exact ⟨bs, hbs, by rwa [h, List.append_nil] at hs⟩
  · rintro ⟨bs, hbs, rfl⟩
    have hskip := hbs.skip []
    rwa [List.append_nil] at hskip

variable {expected n v : String} {s t : Bytes} {ms : List (String × String)}

theorem readEnd_eq_ok : readEnd s = .ok () ↔ ∃ bs, Blank bs ∧ s = encode bs := by
  rw [← skipBlank_eq_nil, readEnd]
  cases skipBlank s <;> simp [failNext]

theorem readColon_eq_ok : readColon s = .ok t ↔ ∃ bs, Blank bs ∧ s = encode bs ++ 58 :: t := by
  rw [← skipBlank_eq_cons (by decide), readColon]
  cases skipBlank s with
  | nil => simp [failNext]
  | cons b rest => by_cases hb : b = 58 <;> simp [failNext, hb]

theorem readString_eq_ok : readString expected s = .ok (v, t) ↔
    ∃ bs cs, Blank bs ∧ Literal cs v ∧ s = encode (bs ++ cs) ++ t := by
  have hread : readString expected s = .ok (v, t) ↔
      ∃ rest, skipBlank s = 34 :: rest ∧ readStringBody rest = .ok (v, t) := by
    rw [readString]
    cases skipBlank s with
    | nil => simp [failNext]
    | cons b rest => by_cases hb : b = 34 <;> simp [hb]
  rw [hread]
  constructor
  · rintro ⟨rest, hskip, hbody⟩
    obtain ⟨bs, hbs, rfl⟩ := (skipBlank_eq_cons (by decide)).1 hskip
    obtain ⟨cs, hcs, rfl⟩ := readStringBody_eq_ok.1 hbody
    exact ⟨bs, _, hbs, .quoted hcs, by simp [encode_marks]⟩
  · rintro ⟨bs, _, hbs, ⟨hcs⟩, rfl⟩
    exact ⟨_, (skipBlank_eq_cons (by decide)).2 ⟨bs, hbs, by simp [encode_marks]⟩,
      readStringBody_eq_ok.2 ⟨_, hcs, rfl⟩⟩

theorem nextMember_close {first : Bool} :
    nextMember first s = .ok (.close t) ↔ ∃ bs, Blank bs ∧ s = encode bs ++ 125 :: t := by
  rw [← skipBlank_eq_cons (by decide), nextMember]
  cases skipBlank s with
  | nil => simp [failNext]
  | cons b rest =>
    by_cases hb : b = 125
    · simp [hb]
    · simp only [hb, ↓reduceIte, List.cons.injEq, false_and, iff_false]
      repeat' split
      all_goals nofun

theorem nextMember_name :
    nextMember true s = .ok (.name t) ↔ ∃ bs, Blank bs ∧ s = encode bs ++ 34 :: t := by
  rw [← skipBlank_eq_cons (by decide), nextMember]
  cases skipBlank s with
  | nil => simp [failNext]
  | cons b rest =>
    by_cases hclose : b = 125
    · simp [hclose]
    · by_cases hb : b = 34 <;> simp [hclose, hb, failNext]

theorem nextMember_comma : nextMember false s = .ok (.name t) ↔
    ∃ bs bs', Blank bs ∧ Blank bs' ∧ s = encode bs ++ 44 :: (encode bs' ++ 34 :: t) := by
  have hnext : nextMember false s = .ok (.name t) ↔
      ∃ rest, skipBlank s = 44 :: rest ∧ skipBlank rest = 34 :: t := by
    rw [nextMember]
    cases skipBlank s with
    | nil => simp [failNext]
    | cons b rest =>
      by_cases hclose : b = 125
      · simp [hclose]
      · by_cases hb : b = 44
        · cases hrest : skipBlank rest with
          | nil => simp [hb, hrest, failNext]
          | cons c rest' =>
            by_cases hc : c = 34
            · simp [hb, hrest, hc]
            · by_cases hbrace : c = 125 <;> simp [hb, hrest, hc, hbrace, failNext]
        · simp [hclose, hb, failNext]
  rw [hnext]
  constructor
  · rintro ⟨rest, hcomma, hquote⟩
    obtain ⟨bs, hbs, rfl⟩ := (skipBlank_eq_cons (by decide)).1 hcomma
    obtain ⟨bs', hbs', rfl⟩ := (skipBlank_eq_cons (by decide)).1 hquote
    exact ⟨bs, bs', hbs, hbs', rfl⟩
  · rintro ⟨bs, bs', hbs, hbs', rfl⟩
    exact ⟨_, (skipBlank_eq_cons (by decide)).2 ⟨bs, hbs, rfl⟩,
      (skipBlank_eq_cons (by decide)).2 ⟨bs', hbs', rfl⟩⟩

def readMember (expected : String) : Reader (String × String) := fun s => do
  let (n, s) ← readStringBody s
  let s ← readColon s
  let (v, s) ← readString expected s
  return ((n, v), s)

theorem readMember_eq_ok {m : String × String} :
    readMember expected s = .ok (m, t) ↔ ∃ cs, Member cs m ∧ 34 :: s = encode cs ++ t := by
  constructor
  · intro h
    obtain ⟨⟨n, s₁⟩, hname, h⟩ := bind_eq_ok.1 h
    obtain ⟨s₂, hcolon, h⟩ := bind_eq_ok.1 h
    obtain ⟨⟨v, s₃⟩, hvalue, h⟩ := bind_eq_ok.1 h
    cases h
    obtain ⟨cs, hcs, rfl⟩ := readStringBody_eq_ok.1 hname
    obtain ⟨bs, hbs, rfl⟩ := readColon_eq_ok.1 hcolon
    obtain ⟨bs', value, hbs', hv, rfl⟩ := readString_eq_ok.1 hvalue
    exact ⟨_, .colon (.quoted hcs) hbs hbs' hv, by simp [encode_marks]⟩
  · rintro ⟨_, @⟨_, bs, bs', value, n, v, @⟨cs, _, hcs⟩, hbs, hbs', hv⟩, hs⟩
    have hs : s = encode cs ++ 34 :: (encode bs ++ 58 :: (encode (bs' ++ value) ++ t)) := by
      simpa [encode_marks] using hs
    refine bind_eq_ok.2 ⟨(n, _), readStringBody_eq_ok.2 ⟨cs, hcs, hs⟩, ?_⟩
    refine bind_eq_ok.2 ⟨_, readColon_eq_ok.2 ⟨bs, hbs, rfl⟩, ?_⟩
    exact bind_eq_ok.2 ⟨(v, t), readString_eq_ok.2 ⟨bs', value, hbs', hv, rfl⟩, rfl⟩

theorem Member.quote {cs : List Char} {m : String × String} (h : Member cs m) :
    ∃ s, encode cs = 34 :: s := by
  obtain ⟨⟨_⟩, _, _, _⟩ := h
  simp only [List.cons_append, encode_cons, encode_marks]
  exact ⟨_, rfl⟩

theorem readMembers_succ (fuel : Nat) (first : Bool) (s : Bytes) :
    readMembers (readString expected) (fuel + 1) first s = nextMember first s >>= fun next =>
      match next with
      | .close rest => .ok ([], rest)
      | .name s => do
        let (m, s) ← readMember expected s
        let (ms, s) ← readMembers (readString expected) fuel false s
        return (m :: ms, s) := by
  rw [readMembers]
  cases nextMember first s with
  | error f => rfl
  | ok next =>
    cases next with
    | close rest => rfl
    | name s =>
      simp only [readMember, bind, Except.bind]
      cases readStringBody s with
      | error f => rfl
      | ok result =>
        simp only
        cases readColon result.2 with
        | error f => rfl
        | ok s =>
          simp only
          cases readString expected s with
          | error f => rfl
          | ok result => rfl

theorem members_of_readMembers {fuel : Nat}
    (h : readMembers (readString expected) fuel false s = .ok (ms, t)) :
    ∃ cs, Members cs ms ∧ s = encode cs ++ t := by
  induction fuel generalizing s ms with
  | zero => cases h
  | succ fuel ih =>
    rw [readMembers_succ] at h
    obtain ⟨next, hnext, h⟩ := bind_eq_ok.1 h
    cases next with
    | close rest =>
      cases h
      obtain ⟨bs, hbs, rfl⟩ := nextMember_close.1 hnext
      exact ⟨_, .close hbs, by simp [encode_marks]⟩
    | name s₁ =>
      obtain ⟨⟨m, s₂⟩, hmember, h⟩ := bind_eq_ok.1 h
      obtain ⟨⟨ms', s₃⟩, hmore, h⟩ := bind_eq_ok.1 h
      cases h
      obtain ⟨bs, bs', hbs, hbs', rfl⟩ := nextMember_comma.1 hnext
      obtain ⟨cs, hcs, hs₁⟩ := readMember_eq_ok.1 hmember
      obtain ⟨ds, hds, rfl⟩ := ih hmore
      exact ⟨_, .comma hbs hbs' hcs hds, by simp [encode_marks, hs₁]⟩

theorem Members.length_le {cs : List Char} (h : Members cs ms) :
    ms.length ≤ (encode cs).length := by
  induction h with
  | close => exact Nat.zero_le _
  | comma _ _ _ _ ih =>
    simp only [encode_append, encode_cons, encode_marks, List.length_append, List.length_cons]
    omega

theorem Members.read {cs : List Char} (h : Members cs ms) (expected : String) (t : Bytes)
    {fuel : Nat} (hfuel : ms.length < fuel) :
    readMembers (readString expected) fuel false (encode cs ++ t) = .ok (ms, t) := by
  induction h generalizing fuel with
  | @close bs hbs =>
    obtain ⟨fuel, rfl⟩ := Nat.exists_eq_add_of_lt hfuel
    have hnext : nextMember false (encode (bs ++ ['}']) ++ t) = .ok (.close t) :=
      nextMember_close.2 ⟨bs, hbs, by simp [encode_marks]⟩
    exact (readMembers_succ ..).trans (bind_eq_ok.2 ⟨_, hnext, rfl⟩)
  | @comma bs bs' cs ds m ms hbs hbs' hm _ ih =>
    obtain ⟨fuel, rfl⟩ := Nat.exists_eq_add_of_lt hfuel
    obtain ⟨s, hs⟩ := hm.quote
    have hnext : nextMember false (encode (bs ++ ',' :: bs' ++ cs ++ ds) ++ t) =
        .ok (.name (s ++ (encode ds ++ t))) :=
      nextMember_comma.2 ⟨bs, bs', hbs, hbs', by simp [encode_marks, hs]⟩
    refine (readMembers_succ ..).trans (bind_eq_ok.2 ⟨_, hnext, ?_⟩)
    refine bind_eq_ok.2 ⟨(m, encode ds ++ t), readMember_eq_ok.2 ⟨cs, hm, by simp [hs]⟩, ?_⟩
    exact bind_eq_ok.2 ⟨(ms, t), ih (by simp only [List.length_cons]; omega), rfl⟩

theorem Object.brace {cs : List Char} (h : Object cs ms) : ∃ s, encode cs = 123 :: s := by
  cases h <;> simp only [List.cons_append, encode_cons, encode_marks] <;> exact ⟨_, rfl⟩

theorem object_of_readMembers {fuel : Nat}
    (h : readMembers (readString expected) fuel true s = .ok (ms, t)) :
    ∃ cs, Object cs ms ∧ 123 :: s = encode cs ++ t := by
  cases fuel with
  | zero => cases h
  | succ fuel =>
    rw [readMembers_succ] at h
    obtain ⟨next, hnext, h⟩ := bind_eq_ok.1 h
    cases next with
    | close rest =>
      cases h
      obtain ⟨bs, hbs, rfl⟩ := nextMember_close.1 hnext
      exact ⟨_, .empty hbs, by simp [encode_marks]⟩
    | name s₁ =>
      obtain ⟨⟨m, s₂⟩, hmember, h⟩ := bind_eq_ok.1 h
      obtain ⟨⟨ms', s₃⟩, hmore, h⟩ := bind_eq_ok.1 h
      cases h
      obtain ⟨bs, hbs, rfl⟩ := nextMember_name.1 hnext
      obtain ⟨cs, hcs, hs₁⟩ := readMember_eq_ok.1 hmember
      obtain ⟨ds, hds, rfl⟩ := members_of_readMembers hmore
      exact ⟨_, .members hbs hcs hds, by simp [encode_marks, hs₁]⟩

theorem Object.read {cs : List Char} (h : Object cs ms) (expected : String) {s t : Bytes}
    (hs : 123 :: s = encode cs ++ t) :
    readMembers (readString expected) (s.length + 1) true s = .ok (ms, t) := by
  cases h with
  | @empty bs hbs =>
    have hclose : s = encode bs ++ 125 :: t := by simpa [encode_marks] using hs
    exact (readMembers_succ ..).trans (bind_eq_ok.2 ⟨_, nextMember_close.2 ⟨bs, hbs, hclose⟩, rfl⟩)
  | @members bs cs ds m ms hbs hm hms =>
    obtain ⟨name, hname⟩ := hm.quote
    have hnext : s = encode bs ++ 34 :: (name ++ (encode ds ++ t)) := by
      simpa [encode_marks, hname] using hs
    have hmember : readMember expected (name ++ (encode ds ++ t)) = .ok (m, encode ds ++ t) :=
      readMember_eq_ok.2 ⟨cs, hm, by simp [hname]⟩
    have hfuel : ms.length < s.length := by
      have := hms.length_le
      simp only [hnext, List.length_append, List.length_cons]
      omega
    refine (readMembers_succ ..).trans (bind_eq_ok.2 ⟨_, nextMember_name.2 ⟨bs, hbs, hnext⟩, ?_⟩)
    exact bind_eq_ok.2 ⟨_, hmember, bind_eq_ok.2 ⟨_, hms.read _ t hfuel, rfl⟩⟩

theorem readStringMap_eq_ok :
    readStringMap s = .ok (ms, t) ↔
      ∃ bs cs, Blank bs ∧ Object cs ms ∧ s = encode (bs ++ cs) ++ t := by
  have hread : readStringMap s = .ok (ms, t) ↔ ∃ rest, skipBlank s = 123 :: rest ∧
      readMembers (readString "a string") (rest.length + 1) true rest = .ok (ms, t) := by
    rw [readStringMap]
    cases skipBlank s with
    | nil => simp [failNext]
    | cons b rest => by_cases hb : b = 123 <;> simp [hb]
  rw [hread]
  constructor
  · rintro ⟨rest, hskip, hmembers⟩
    obtain ⟨bs, hbs, rfl⟩ := (skipBlank_eq_cons (by decide)).1 hskip
    obtain ⟨cs, hcs, hrest⟩ := object_of_readMembers hmembers
    exact ⟨bs, cs, hbs, hcs, by rw [hrest, encode_append, List.append_assoc]⟩
  · rintro ⟨bs, cs, hbs, hcs, rfl⟩
    obtain ⟨rest, hrest⟩ := hcs.brace
    have hs : 123 :: (rest ++ t) = encode cs ++ t := by rw [hrest, List.cons_append]
    refine ⟨rest ++ t, (skipBlank_eq_cons (by decide)).2 ⟨bs, hbs, ?_⟩, hcs.read _ hs⟩
    rw [encode_append, List.append_assoc, hs]

theorem readAll_eq_ok {α : Type} {reader : Reader α} {a : α} {v : Bytes} :
    readAll reader v = .ok a ↔ ∃ s, reader v = .ok (a, s) ∧ readEnd s = .ok () := by
  simp only [readAll]
  cases reader v with
  | error f => simp [bind, Except.bind]
  | ok result =>
    obtain ⟨a', s⟩ := result
    simp only [bind, Except.bind, Except.ok.injEq, Prod.mk.injEq, and_assoc, exists_and_left,
      exists_eq_left']
    cases readEnd s with
    | error f => simp
    | ok => simp [pure, Except.pure]

theorem readAll_readStringMap {v : Bytes} :
    readAll readStringMap v = .ok ms ↔
      ∃ text : String, utf8 text = v ∧ Document text.toList ms := by
  rw [readAll_eq_ok]
  constructor
  · rintro ⟨s, hmap, hend⟩
    obtain ⟨bs', hbs', rfl⟩ := readEnd_eq_ok.1 hend
    obtain ⟨bs, cs, hbs, hcs, rfl⟩ := readStringMap_eq_ok.1 hmap
    refine ⟨String.ofList (bs ++ cs ++ bs'), ?_, ?_⟩
    · rw [utf8_ofList, ← encode_append]
      rfl
    · rw [String.toList_ofList]
      exact .object hbs hcs hbs'
  · rintro ⟨text, rfl, htext⟩
    generalize hall : text.toList = all at htext
    obtain ⟨hbs, hcs, hbs'⟩ := htext
    rw [← encode_toList, hall]
    exact ⟨_, readStringMap_eq_ok.2 ⟨_, _, hbs, hcs, encode_append ..⟩,
      readEnd_eq_ok.2 ⟨_, hbs', rfl⟩⟩

example : readAll readStringMap
    (utf8 " \x7b\"a\" :\t\"\\uD83D\\ude00\", \"a\":\"\\/\"\x7d\n") =
      .ok [("a", "😀"), ("a", "/")] := rfl

end SchemaRegistry.Json
