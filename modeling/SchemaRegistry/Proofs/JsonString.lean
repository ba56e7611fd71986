import SchemaRegistry.Proofs.Json
import SchemaRegistry.Proofs.Utf8

/-!
The strings of JSON, as characters: what may stand between two quotes, and the text that it spells.
What is read as a string is exactly what spells one.  The reader works on bytes and is done with a
string before it knows them to be UTF-8, so an escape might cut a character in two; it does not,
since the bytes of an escaped character never continue another.
-/

namespace SchemaRegistry.Json

def Plain (c : Char) : Prop := ' ' ≤ c ∧ c ≠ '"' ∧ c ≠ '\\'

instance : DecidablePred Plain := fun _ => inferInstanceAs (Decidable (_ ∧ _ ∧ _))

def letters : List (Char × Char) :=
  [('"', '"'), ('\\', '\\'), ('/', '/'), ('b', '\x08'), ('f', '\x0c'), ('n', '\n'), ('r', '\r'),
    ('t', '\t')]

def hexDigits : List (Char × Nat) :=
  "0123456789abcdef".toList.zipIdx ++ "0123456789ABCDEF".toList.zipIdx

inductive Quad : List Char → Nat → Prop
  | digits {a b c d : Char} {x y z w : Nat} (ha : (a, x) ∈ hexDigits) (hb : (b, y) ∈ hexDigits)
    (hc : (c, z) ∈ hexDigits) (hd : (d, w) ∈ hexDigits) :
    Quad [a, b, c, d] (((x * 16 + y) * 16 + z) * 16 + w)

/-- What may stand behind a backslash, and the character it stands for. -/
inductive Escape : List Char → Char → Prop
  | letter {l c : Char} (h : (l, c) ∈ letters) : Escape [l] c
  | number {ds : List Char} {c : Char} (h : Quad ds c.toNat) : Escape ('u' :: ds) c
  | halves {hs ls : List Char} {high low : Nat} {c : Char} (hhigh : Quad hs (0xD800 + high))
    (hlow : Quad ls (0xDC00 + low)) (hh : high < 0x400) (hl : low < 0x400)
    (hc : c.toNat = 0x10000 + high * 0x400 + low) : Escape ('u' :: hs ++ '\\' :: 'u' :: ls) c

/-- What stands between the quotes of a string, and the characters it spells. -/
inductive Spells : List Char → List Char → Prop
  | nil : Spells [] []
  | plain {c : Char} {cs text : List Char} (hc : Plain c) (h : Spells cs text) :
    Spells (c :: cs) (c :: text)
  | escape {e : List Char} {c : Char} {cs text : List Char} (he : Escape e c) (h : Spells cs text) :
    Spells ('\\' :: e ++ cs) (c :: text)

theorem bind_eq_ok {ε α β : Type} {x : Except ε α} {f : α → Except ε β} {b : β} :
    x >>= f = .ok b ↔ ∃ a, x = .ok a ∧ f a = .ok b := by
  cases x <;> simp [bind, Except.bind]

def encode (cs : List Char) : Bytes := cs.flatMap String.utf8EncodeChar

@[simp] theorem encode_nil : encode [] = [] := rfl

@[simp] theorem encode_cons (c : Char) (cs : List Char) :
    encode (c :: cs) = String.utf8EncodeChar c ++ encode cs := rfl

@[simp] theorem encode_append (cs ds : List Char) : encode (cs ++ ds) = encode cs ++ encode ds :=
  List.flatMap_append

theorem encode_toList (s : String) : encode s.toList = utf8 s := (utf8_eq_flatMap s).symm

theorem encode_marks : String.utf8EncodeChar '"' = [34] ∧ String.utf8EncodeChar ':' = [58] ∧
    String.utf8EncodeChar ',' = [44] ∧ String.utf8EncodeChar '{' = [123] ∧
    String.utf8EncodeChar '}' = [125] := by
  decide

/-- The same as `Spells`, of bytes: escapes are characters, and the rest is taken as it is. -/
inductive SpellsBytes : Bytes → Bytes → Prop
  | nil : SpellsBytes [] []
  | plain {b : UInt8} {s bs : Bytes} (hcontrol : ¬ b < 32) (hquote : b ≠ 34) (hslash : b ≠ 92)
    (h : SpellsBytes s bs) : SpellsBytes (b :: s) (b :: bs)
  | escape {e : List Char} {c : Char} {s bs : Bytes} (he : Escape e c) (h : SpellsBytes s bs) :
    SpellsBytes (92 :: encode e ++ s) (String.utf8EncodeChar c ++ bs)

theorem hexValue?_of_mem : ∀ d ∈ hexDigits,
    String.utf8EncodeChar d.1 = [UInt8.ofNat d.1.toNat] ∧
      Bytes.hexValue? (UInt8.ofNat d.1.toNat) = some d.2 ∧ d.2 < 16 := by
  decide +kernel

theorem escaped?_of_mem : ∀ l ∈ letters,
    String.utf8EncodeChar l.1 = [UInt8.ofNat l.1.toNat] ∧ UInt8.ofNat l.1.toNat ≠ 117 ∧
      escaped? (UInt8.ofNat l.1.toNat) = some (UInt8.ofNat l.2.toNat) ∧
      String.utf8EncodeChar l.2 = [UInt8.ofNat l.2.toNat] := by
  decide +kernel

theorem exists_hexDigit : ∀ b : UInt8, ∀ v ∈ Bytes.hexValue? b,
    ∃ c, String.utf8EncodeChar c = [b] ∧ (c, v) ∈ hexDigits := by
  have hall : ∀ n < 256, ∀ v ∈ Bytes.hexValue? (UInt8.ofNat n),
      String.utf8EncodeChar (Char.ofNat n) = [UInt8.ofNat n] ∧ (Char.ofNat n, v) ∈ hexDigits := by
    decide +kernel
  exact Bytes.forall_of_lt fun n hn v hv => ⟨_, hall n hn v hv⟩

theorem exists_letter : ∀ b : UInt8, ∀ x ∈ escaped? b,
    ∃ l c, String.utf8EncodeChar l = [b] ∧ String.utf8EncodeChar c = [x] ∧ (l, c) ∈ letters := by
  have hall : ∀ n < 256, ∀ x ∈ escaped? (UInt8.ofNat n),
      String.utf8EncodeChar (Char.ofNat n) = [UInt8.ofNat n] ∧
        String.utf8EncodeChar (Char.ofNat x.toNat) = [x] ∧
        (Char.ofNat n, Char.ofNat x.toNat) ∈ letters := by
    decide +kernel
  exact Bytes.forall_of_lt fun n hn x hx => ⟨_, _, hall n hn x hx⟩

theorem Quad.hexValue4? {ds : List Char} {n : Nat} (h : Quad ds n) :
    ∃ a b c d, encode ds = [a, b, c, d] ∧ Json.hexValue4? a b c d = some n := by
  obtain @⟨a, b, c, d, x, y, z, w, ha, hb, hc, hd⟩ := h
  obtain ⟨ea, va, -⟩ := hexValue?_of_mem _ ha
  obtain ⟨eb, vb, -⟩ := hexValue?_of_mem _ hb
  obtain ⟨ec, vc, -⟩ := hexValue?_of_mem _ hc
  obtain ⟨ed, vd, -⟩ := hexValue?_of_mem _ hd
  have hvalue : Json.hexValue4? (UInt8.ofNat a.toNat) (UInt8.ofNat b.toNat) (UInt8.ofNat c.toNat)
      (UInt8.ofNat d.toNat) = some (((x * 16 + y) * 16 + z) * 16 + w) := by
    simp [Json.hexValue4?, va, vb, vc, vd]
  refine ⟨_, _, _, _, ?_, hvalue⟩
  simp [ea, eb, ec, ed]

theorem exists_quad {a b c d : UInt8} {n : Nat} (h : hexValue4? a b c d = some n) :
    ∃ ds, encode ds = [a, b, c, d] ∧ Quad ds n := by
  simp only [hexValue4?, Option.bind_eq_bind, Option.bind_eq_some_iff, Option.pure_def,
    Option.some.injEq] at h
  obtain ⟨x, hx, y, hy, z, hz, w, hw, rfl⟩ := h
  obtain ⟨a', ea, ha⟩ := exists_hexDigit a x hx
  obtain ⟨b', eb, hb⟩ := exists_hexDigit b y hy
  obtain ⟨c', ec, hc⟩ := exists_hexDigit c z hz
  obtain ⟨d', ed, hd⟩ := exists_hexDigit d w hw
  exact ⟨[a', b', c', d'], by simp [ea, eb, ec, ed], .digits ha hb hc hd⟩

theorem Quad.lt {ds : List Char} {n : Nat} (h : Quad ds n) : n < 0x10000 := by
  obtain ⟨ha, hb, hc, hd⟩ := h
  have ha := (hexValue?_of_mem _ ha).2.2
  have hb := (hexValue?_of_mem _ hb).2.2
  have hc := (hexValue?_of_mem _ hc).2.2
  have hd := (hexValue?_of_mem _ hd).2.2
  simp only at ha hb hc hd
  omega

theorem toNat_ofNat_of_valid {n : Nat} (h : n.isValidChar) : (Char.ofNat n).toNat = n := by
  rw [Char.ofNat, dif_pos h]
  rfl

theorem Escape.read {e : List Char} {c : Char} (h : Escape e c) (acc rest : Bytes) :
    stringBytes acc (92 :: encode e ++ rest) =
      stringBytes ((String.utf8EncodeChar c).reverse ++ acc) rest := by
  cases h with
  | letter h =>
    obtain ⟨hletter, hu, hescaped, hc⟩ := escaped?_of_mem _ h
    simp only [encode_cons, encode_nil, hletter, hc]
    exact stringBytes_escaped acc hu hescaped rest
  | number h =>
    have hvalid : c.toNat.isValidChar := c.valid
    have hleading : isLeading c.toNat = false := by
      simp only [isLeading, Bool.and_eq_false_iff, decide_eq_false_iff_not]
      omega
    have htrailing : isTrailing c.toNat = false := by
      simp only [isTrailing, Bool.and_eq_false_iff, decide_eq_false_iff_not]
      omega
    obtain ⟨x, y, z, w, hds, hvalue⟩ := h.hexValue4?
    rw [encode_cons, hds]
    refine (stringBytes_number acc hvalue hleading htrailing rest).trans ?_
    rw [pushCodePoint, Char.ofNat_toNat]
  | @halves hs ls high low _ hhigh hlow hh hl hc =>
    obtain ⟨x, y, z, w, hhs, hvalue⟩ := hhigh.hexValue4?
    obtain ⟨x', y', z', w', hls, hvalue'⟩ := hlow.hexValue4?
    have hread := stringBytes_halves acc hvalue hvalue' (by simp [isLeading]; omega)
      (by simp [isTrailing]; omega) (by simp [isTrailing]; omega) rest
    rw [Nat.add_sub_cancel_left, Nat.add_sub_cancel_left, ← hc, pushCodePoint,
      Char.ofNat_toNat] at hread
    rw [← hread, encode_append, encode_cons, encode_cons, encode_cons, hhs, hls]
    rfl

theorem exists_escape_of_number {a b c d : UInt8} {n : Nat} (h : hexValue4? a b c d = some n)
    (hleading : isLeading n = false) (htrailing : isTrailing n = false) :
    ∃ e, encode e = [117, a, b, c, d] ∧ Escape e (Char.ofNat n) := by
  obtain ⟨ds, hds, hquad⟩ := exists_quad h
  have hlt := hquad.lt
  have hvalid : n.isValidChar := by
    simp only [isLeading, isTrailing, Bool.and_eq_false_iff,
      decide_eq_false_iff_not] at hleading htrailing
    simp only [Nat.isValidChar]
    omega
  refine ⟨'u' :: ds, ?_, .number ?_⟩
  · rw [encode_cons, hds]
    rfl
  · rwa [toNat_ofNat_of_valid hvalid]

theorem exists_escape_of_halves {a b c d a' b' c' d' : UInt8} {n m : Nat}
    (h : hexValue4? a b c d = some n) (h' : hexValue4? a' b' c' d' = some m)
    (hleading : isLeading n = true) (htrailing : isTrailing m = true) :
    ∃ e, encode e = [117, a, b, c, d, 92, 117, a', b', c', d'] ∧
      Escape e (Char.ofNat (0x10000 + (n - 0xD800) * 0x400 + (m - 0xDC00))) := by
  simp only [isLeading, isTrailing, Bool.and_eq_true, decide_eq_true_eq] at hleading htrailing
  obtain ⟨hs, hhs, hhigh⟩ := exists_quad h
  obtain ⟨ls, hls, hlow⟩ := exists_quad h'
  rw [show n = 0xD800 + (n - 0xD800) by omega] at hhigh
  rw [show m = 0xDC00 + (m - 0xDC00) by omega] at hlow
  refine ⟨'u' :: hs ++ '\\' :: 'u' :: ls, ?_, .halves hhigh hlow (by omega) (by omega) ?_⟩
  · rw [encode_append, encode_cons, encode_cons, encode_cons, hhs, hls]
    rfl
  · exact toNat_ofNat_of_valid (.inr (by omega))

/-- The bytes `s`, up to a quote, spell what has been put behind the reversed bytes `acc`. -/
def Closes (acc s bs rest : Bytes) : Prop :=
  ∃ lit tail, SpellsBytes lit tail ∧ s = lit ++ 34 :: rest ∧ bs = acc.reverse ++ tail

theorem Closes.escape {e : List Char} {c : Char} {acc s bs rest : Bytes} (he : Escape e c)
    (h : Closes ((String.utf8EncodeChar c).reverse ++ acc) s bs rest) :
    Closes acc (92 :: encode e ++ s) bs rest := by
  obtain ⟨lit, tail, hlit, rfl, rfl⟩ := h
  exact ⟨_, _, .escape he hlit, by simp, by simp⟩

theorem Closes.plain {b : UInt8} {acc s bs rest : Bytes} (hcontrol : ¬ b < 32) (hquote : b ≠ 34)
    (hslash : b ≠ 92) (h : Closes (b :: acc) s bs rest) : Closes acc (b :: s) bs rest := by
  obtain ⟨lit, tail, hlit, rfl, rfl⟩ := h
  exact ⟨_, _, .plain hcontrol hquote hslash hlit, by simp, by simp⟩

theorem closes_of_stringBytes {acc s bs rest : Bytes} (h : stringBytes acc s = .ok (bs, rest)) :
    Closes acc s bs rest := by
  fun_induction stringBytes acc s with
  | case2 acc s =>
    -- the closing quote
    cases h
    exact ⟨[], [], .nil, rfl, (List.append_nil _).symm⟩
  | case9 acc a b c d n hn hnot hleading a' b' c' d' s m hm htrailing _ ih =>
    -- two halves
    obtain ⟨e, he, hescape⟩ := exists_escape_of_halves hn hm hleading htrailing
    have hcloses := Closes.escape hescape (ih h)
    rwa [he] at hcloses
  | case14 acc a b c d s n hn htrailing hleading _ ih =>
    -- a number that is no half
    obtain ⟨e, he, hescape⟩ :=
      exists_escape_of_number hn (by simpa using hleading) (by simpa using htrailing)
    have hcloses := Closes.escape hescape (ih h)
    rwa [he] at hcloses
  | case16 acc b s _ x hx _ ih =>
    -- a letter
    obtain ⟨l, c, hl, hc, hmem⟩ := exists_letter b x hx
    have hread : Closes ((String.utf8EncodeChar c).reverse ++ acc) s bs rest := by
      rw [hc]
      exact ih h
    have hcloses := Closes.escape (.letter hmem) hread
    rwa [encode_cons, hl] at hcloses
  | case19 acc b s hquote hslash hcontrol ih => exact .plain hcontrol hquote hslash (ih h)
  | _ => cases h

theorem SpellsBytes.read {lit bs : Bytes} (h : SpellsBytes lit bs) (acc rest : Bytes) :
    stringBytes acc (lit ++ 34 :: rest) = .ok (acc.reverse ++ bs, rest) := by
  induction h generalizing acc with
  | nil =>
    rw [List.nil_append, List.append_nil, stringBytes.eq_def]
    rfl
  | plain hcontrol hquote hslash _ ih =>
    rw [List.cons_append, stringBytes_plain acc hquote hslash hcontrol, ih]
    simp
  | escape he _ ih =>
    rw [List.append_assoc, he.read, ih]
    simp

theorem SpellsBytes.of_continued {cs bs lit : Bytes} (h : SpellsBytes lit (cs ++ bs))
    (hcs : ∀ x ∈ cs, 0x80 ≤ x.toNat ∧ x.toNat < 0xC0) :
    ∃ rest, lit = cs ++ rest ∧ SpellsBytes rest bs := by
  induction cs generalizing lit with
  | nil => exact ⟨lit, rfl, h⟩
  | cons x cs ih =>
    obtain ⟨hx, hcs⟩ := List.forall_mem_cons.1 hcs
    generalize hall : x :: cs ++ bs = all at h
    cases h with
    | nil => cases hall
    | plain _ _ _ h =>
      obtain ⟨rfl, rfl⟩ := List.cons.inj hall
      obtain ⟨rest, rfl, hrest⟩ := ih h hcs
      exact ⟨rest, rfl, hrest⟩
    | escape _ _ => exact absurd hx (not_continuation_of_cons hall.symm)

theorem plain_of_lt : ∀ n < 128, Plain (Char.ofNat n) ↔
    ¬ UInt8.ofNat n < 32 ∧ UInt8.ofNat n ≠ 34 ∧ UInt8.ofNat n ≠ 92 := by
  decide +kernel

theorem plain_of_long {c : Char} (h : ¬ c.toNat < 128) : Plain c := by
  refine ⟨?_, ?_, ?_⟩
  · have : ' '.toNat ≤ c.toNat := Nat.le_trans (by decide) (Nat.le_of_not_lt h)
    exact this
  · rintro rfl
    exact h (by decide)
  · rintro rfl
    exact h (by decide)

theorem SpellsBytes.of_high {cs s bs : Bytes} (h : SpellsBytes s bs)
    (hcs : ∀ x ∈ cs, 0x80 ≤ x.toNat) : SpellsBytes (cs ++ s) (cs ++ bs) := by
  induction cs with
  | nil => exact h
  | cons x cs ih =>
    obtain ⟨hx, hcs⟩ := List.forall_mem_cons.1 hcs
    refine .plain ?_ ?_ ?_ (ih hcs)
    · rw [UInt8.lt_iff_toNat_lt]
      exact Nat.not_lt_of_le (Nat.le_trans (by decide) hx)
    · rintro rfl
      exact absurd hx (by decide)
    · rintro rfl
      exact absurd hx (by decide)

theorem SpellsBytes.of_plain {c : Char} (hc : Plain c) {s bs : Bytes} (h : SpellsBytes s bs) :
    SpellsBytes (String.utf8EncodeChar c ++ s) (String.utf8EncodeChar c ++ bs) := by
  by_cases hascii : c.toNat < 128
  · have hplain := plain_of_lt _ hascii
    rw [Char.ofNat_toNat] at hplain
    obtain ⟨hcontrol, hquote, hslash⟩ := hplain.1 hc
    rw [utf8EncodeChar_ascii hascii]
    exact .plain hcontrol hquote hslash h
  · have hbytes : ∀ x ∈ String.utf8EncodeChar c, 0x80 ≤ x.toNat := by
      obtain ⟨b, cs, hbytes, hb, hcs⟩ := utf8EncodeChar_long hascii
      rw [hbytes, List.forall_mem_cons]
      exact ⟨by omega, fun x hx => (hcs x hx).1⟩
    exact h.of_high hbytes

/-- A character whose bytes come next, the first of them as it is, is plain and comes as a whole. -/
theorem SpellsBytes.exists_plain {c : Char} {b : UInt8} {s bs ds : Bytes} (h : SpellsBytes s bs)
    (hb : ¬ b < 32 ∧ b ≠ 34 ∧ b ≠ 92) (hc : String.utf8EncodeChar c ++ ds = b :: bs) :
    Plain c ∧ ∃ rest, b :: s = String.utf8EncodeChar c ++ rest ∧ SpellsBytes rest ds := by
  by_cases hascii : c.toNat < 128
  · have hplain := plain_of_lt _ hascii
    rw [Char.ofNat_toNat] at hplain
    rw [utf8EncodeChar_ascii hascii] at hc ⊢
    obtain ⟨rfl, rfl⟩ := List.cons.inj hc
    exact ⟨hplain.2 hb, s, rfl, h⟩
  · obtain ⟨b', cs, hbytes, -, hcs⟩ := utf8EncodeChar_long hascii
    rw [hbytes] at hc ⊢
    obtain ⟨rfl, rfl⟩ := List.cons.inj hc
    obtain ⟨rest, rfl, hrest⟩ := h.of_continued hcs
    exact ⟨plain_of_long hascii, rest, rfl, hrest⟩

theorem cons_of_encode_eq {c : Char} {cs : List Char} {bs : Bytes}
    (h : encode cs = String.utf8EncodeChar c ++ bs) : ∃ ds, cs = c :: ds ∧ encode ds = bs := by
  have hstring : utf8 (String.ofList cs) = utf8 (String.ofList [c]) ++ bs := by
    rw [utf8_ofList, utf8_ofList, List.flatMap_singleton]
    exact h
  obtain ⟨w, hw, rfl⟩ := exists_of_utf8_append hstring
  refine ⟨w.toList, ?_, encode_toList w⟩
  simpa using congrArg String.toList hw

theorem SpellsBytes.exists_chars {text : List Char} {lit : Bytes}
    (h : SpellsBytes lit (encode text)) : ∃ cs, lit = encode cs ∧ Spells cs text := by
  generalize hall : encode text = all at h
  induction text generalizing lit all with
  | nil =>
    cases h with
    | nil => exact ⟨[], rfl, .nil⟩
    | plain => cases hall
    | escape => simp at hall
  | cons c text ih =>
    cases h with
    | nil => simp at hall
    | plain hcontrol hquote hslash h =>
      obtain ⟨hplain, rest, hlit, hrest⟩ := h.exists_plain ⟨hcontrol, hquote, hslash⟩ hall
      obtain ⟨cs, rfl, hcs⟩ := ih _ rfl hrest
      exact ⟨c :: cs, hlit, .plain hplain hcs⟩
    | @escape e d s bs he h =>
      obtain ⟨ds, hds, rfl⟩ := cons_of_encode_eq hall
      obtain ⟨rfl, rfl⟩ := List.cons.inj hds
      obtain ⟨cs, rfl, hcs⟩ := ih _ rfl h
      refine ⟨'\\' :: e ++ cs, ?_, .escape he hcs⟩
      rw [encode_append]
      rfl

theorem Spells.bytes {cs text : List Char} (h : Spells cs text) :
    SpellsBytes (encode cs) (encode text) := by
  induction h with
  | nil => exact .nil
  | plain hc _ ih => exact .of_plain hc ih
  | escape he _ ih =>
    rw [encode_append, encode_cons, encode_cons]
    exact .escape he ih

theorem readStringBody_eq_ok {s rest : Bytes} {text : String} :
    readStringBody s = .ok (text, rest) ↔
      ∃ cs, Spells cs text.toList ∧ s = encode cs ++ 34 :: rest := by
  constructor
  · intro hread
    obtain ⟨⟨bs, t⟩, hbytes, h⟩ := bind_eq_ok.1 hread
    obtain ⟨lit, _, hlit, rfl, rfl⟩ := closes_of_stringBytes hbytes
    cases hdecode : Utf8.decode bs with
    | error e => simp [hdecode] at h
    | ok decoded =>
      simp only [hdecode, Except.ok.injEq, Prod.mk.injEq] at h
      obtain ⟨rfl, rfl⟩ := h
      -- the bytes that were read are those of the text, and so are spelled by characters
      rw [Utf8.decode_eq_ok, ← encode_toList] at hdecode
      obtain ⟨cs, rfl, hcs⟩ := SpellsBytes.exists_chars (hdecode ▸ hlit)
      exact ⟨cs, hcs, rfl⟩
  · rintro ⟨cs, hcs, rfl⟩
    have hread := hcs.bytes.read [] rest
    rw [encode_toList] at hread
    simp only [readStringBody, hread, bind, Except.bind, List.reverse_nil, List.nil_append,
      Utf8.decode_utf8]

end SchemaRegistry.Json
