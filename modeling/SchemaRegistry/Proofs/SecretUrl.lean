import SchemaRegistry.Auth.Vault
import SchemaRegistry.Proofs.Percent
import SchemaRegistry.Proofs.View

/-!
Where the secrets of users are.  A user's name is one more segment behind a folder, and is read back
from it, unless it holds characters that do not count in a URL.  Those are dropped after the name
has been looked at: such a name shares its URL with the name that is left, and what is left of it
may be dots.
-/

namespace SchemaRegistry

theorem Text.mem_of_mem_pieces {separator c : Char} {cs piece : List Char}
    (hpiece : piece ∈ pieces separator cs) (hc : c ∈ piece) : c ∈ cs := by
  induction cs generalizing piece with
  | nil => simp_all [pieces]
  | cons d cs ih =>
    simp only [pieces] at hpiece
    split at hpiece
    · rcases List.mem_cons.1 hpiece with rfl | hpiece
      · cases hc
      · exact List.mem_cons_of_mem _ (ih hpiece hc)
    · split at hpiece
      · rw [List.mem_singleton.1 hpiece] at hc
        exact List.mem_singleton.1 hc ▸ List.mem_cons_self
      · next first rest heq =>
        rcases List.mem_cons.1 hpiece with rfl | hpiece
        · rcases List.mem_cons.1 hc with rfl | hc
          · exact List.mem_cons_self
          · exact List.mem_cons_of_mem _ (ih (heq ▸ List.mem_cons_self) hc)
        · exact List.mem_cons_of_mem _ (ih (heq ▸ List.mem_cons_of_mem _ hpiece) hc)

namespace Url

variable {scheme s t : String} {special : Bool} {path : List String}

def strip (s : String) : String := String.ofList (s.toList.filter (!isIgnored ·))

def Clean (s : String) : Prop := ∀ c ∈ s.toList, isIgnored c = false

instance (s : String) : Decidable (Clean s) := List.decidableBAll (isIgnored · = false) s.toList

def Proper (s : String) : Prop := s ≠ "" ∧ s ≠ "." ∧ s ≠ ".."

instance (s : String) : Decidable (Proper s) := inferInstanceAs (Decidable (_ ∧ _ ∧ _))

theorem strip_eq_self : strip s = s ↔ Clean s := by
  rw [strip, ← String.toList_inj, String.toList_ofList, List.filter_eq_self]
  simp [Clean]

theorem decode?_encodeSegment (special : Bool) (s : String) :
    Percent.decode? (encodeSegment special s) = some (strip s) := by
  cases special with
  | false =>
    change Percent.decode? (Percent.encode .segment (strip s)) = some (strip s)
    exact Percent.decode?_encode (by decide) _
  | true =>
    change Percent.decode? (Percent.encode .specialSegment (strip s)) = some (strip s)
    exact Percent.decode?_encode (by decide) _

theorem encodeSegment_inj :
    encodeSegment special s = encodeSegment special t ↔ strip s = strip t := by
  constructor
  · intro h
    have hdecoded := congrArg Percent.decode? h
    rwa [decode?_encodeSegment, decode?_encodeSegment, Option.some.injEq] at hdecoded
  · intro h
    rw [encodeSegment, ← strip, h]
    rfl

theorem encodeSegment_v1 : ∀ special, encodeSegment special "v1" = "v1" := by decide

theorem encodeSegment_eq_iff (ht : t ∈ ["", ".", ".."]) :
    encodeSegment special s = t ↔ strip s = t := by
  have hkept : ∀ special, ∀ t ∈ ["", ".", ".."], encodeSegment special t = t ∧ strip t = t := by
    decide
  obtain ⟨hencoded, hstripped⟩ := hkept special t ht
  have hinj : encodeSegment special s = encodeSegment special t ↔ strip s = strip t :=
    encodeSegment_inj
  rwa [hencoded, hstripped] at hinj

def trunk (path : List String) : List String := if path = [""] then [] else path

theorem trunk_of_ne (h : path ≠ [""]) : trunk path = path := if_neg h

theorem addSegment_of_ne (h : scheme ≠ "file") (path : List String) (s : String) :
    addSegment scheme path s = path ++ [s] := by
  simp [addSegment, h]

theorem pushSegment_eq (h : scheme ≠ "file") (hs : s ≠ "." ∧ s ≠ "..") (path : List String) :
    pushSegment scheme path s =
      if strip s = "." then trunk path ++ [""]
      else if strip s = ".." then above (trunk path) ++ [""]
      else trunk path ++ [encodeSegment (isSpecialScheme scheme) s] := by
  have hdot : encodeSegment (isSpecialScheme scheme) s = "." ↔ strip s = "." :=
    encodeSegment_eq_iff (by simp)
  have hdots : encodeSegment (isSpecialScheme scheme) s = ".." ↔ strip s = ".." :=
    encodeSegment_eq_iff (by simp)
  simp only [pushSegment, Bool.or_eq_true, decide_eq_true_eq, hs.1, hs.2, or_self, hdot, hdots, h,
    ↓reduceIte, addSegment_of_ne h, trunk]

theorem ne_dots_of_proper (h : Proper (strip s)) : s ≠ "." ∧ s ≠ ".." := by
  constructor
  · rintro rfl
    exact h.2.1 rfl
  · rintro rfl
    exact h.2.2 rfl

theorem pushSegment_proper (h : scheme ≠ "file") (hs : Proper (strip s)) (path : List String) :
    pushSegment scheme path s = trunk path ++ [encodeSegment (isSpecialScheme scheme) s] := by
  rw [pushSegment_eq h (ne_dots_of_proper hs), if_neg hs.2.1, if_neg hs.2.2]

theorem pushSegment_improper (h : scheme ≠ "file") (hs : s ≠ "." ∧ s ≠ "..")
    (hstrip : ¬ Proper (strip s)) (path : List String) :
    pushSegment scheme path s = trunk path ++ [""] ∨
    pushSegment scheme path s = above (trunk path) ++ [""] := by
  rw [pushSegment_eq h hs]
  split
  · exact .inl rfl
  · next hdot =>
    split
    · exact .inr rfl
    · next hdots =>
      have hempty : strip s = "" := Decidable.not_not.1 fun hne => hstrip ⟨hne, hdot, hdots⟩
      exact .inl (by rw [(encodeSegment_eq_iff (by simp)).2 hempty])

theorem encodeSegment_ne_empty (hs : Proper (strip s)) : encodeSegment special s ≠ "" := fun h =>
  hs.1 ((encodeSegment_eq_iff (by simp)).1 h)

theorem append_encodeSegment_ne (hs : Proper (strip s)) (path : List String) :
    path ++ [encodeSegment special s] ≠ [""] := by
  intro h
  have hlast := congrArg List.getLast? h
  rw [List.getLast?_concat, List.getLast?_singleton, Option.some.injEq] at hlast
  exact encodeSegment_ne_empty hs hlast

theorem foldl_pushSegment (h : scheme ≠ "file") {added : List String}
    (hadded : ∀ s ∈ added, Proper (strip s)) (hpath : path ≠ [""]) :
    added.foldl (pushSegment scheme) path =
      path ++ added.map (encodeSegment (isSpecialScheme scheme)) := by
  induction added generalizing path with
  | nil => simp
  | cons s added ih =>
    obtain ⟨hs, hadded⟩ := List.forall_mem_cons.1 hadded
    rw [List.foldl_cons, pushSegment_proper h hs, trunk_of_ne hpath,
      ih hadded (append_encodeSegment_ne hs path), List.map_cons, List.append_assoc]
    rfl

theorem render_segments_inj (base : Url) (path : List String) :
    Url.render { base with path := .segments (path ++ [s]) } =
      Url.render { base with path := .segments (path ++ [t]) } ↔ s = t := by
  simp [render, pathText, segmentsText, String.join_append, String.append_assoc]

end Url

namespace Vault

open Url (Clean Proper strip trunk)

variable {base u u' : Url} {mount name other : String}

def stem (base : Url) (mount : String) : List String :=
  ("v1" :: mountSegments mount).foldl (Url.pushSegment base.scheme) (Url.dropEmpty (basePath base))

theorem secretUrl_eq_ok : secretUrl base mount name = .ok u ↔ Proper name ∧
    u = { base with path := .segments (Url.pushSegment base.scheme (stem base mount) name) } := by
  simp only [secretUrl, Bool.or_eq_true, decide_eq_true_eq, List.cons_append, List.foldl_cons,
    List.foldl_append, List.foldl_nil, stem, Proper]
  split
  · next h => simp [← not_or, ← or_assoc, h]
  · next h => simp [← not_or, ← or_assoc, h, eq_comm]

theorem secretUrl_proper (h : base.scheme ≠ "file") (hname : Proper name)
    (hstrip : Proper (strip name)) :
    secretUrl base mount name = .ok { base with path := .segments (trunk (stem base mount) ++
      [Url.encodeSegment (Url.isSpecialScheme base.scheme) name]) } := by
  rw [secretUrl_eq_ok, Url.pushSegment_proper h hstrip]
  exact ⟨hname, rfl⟩

/-- Proper names share a URL exactly when they are the same but for what does not count in a URL. -/
theorem render_secretUrl_inj (h : base.scheme ≠ "file") (hu : secretUrl base mount name = .ok u)
    (hu' : secretUrl base mount other = .ok u') (hname : Proper (strip name))
    (hother : Proper (strip other)) : u.render = u'.render ↔ strip name = strip other := by
  rw [secretUrl_proper h (secretUrl_eq_ok.1 hu).1 hname] at hu
  rw [secretUrl_proper h (secretUrl_eq_ok.1 hu').1 hother] at hu'
  cases hu
  cases hu'
  rw [Url.render_segments_inj, Url.encodeSegment_inj]

def folder (base : Url) (mount : String) : List String :=
  trunk (Url.dropEmpty (basePath base)) ++
    "v1" :: (mountSegments mount).map (Url.encodeSegment (Url.isSpecialScheme base.scheme))

theorem clean_of_mem_mountSegments (h : Clean mount) {s : String} (hs : s ∈ mountSegments mount) :
    Clean s := by
  rw [mountSegments, List.mem_filter, Text.split, List.mem_map] at hs
  obtain ⟨⟨piece, hpiece, rfl⟩, -⟩ := hs
  intro c hc
  rw [String.toList_ofList] at hc
  exact h c (Text.mem_of_mem_pieces hpiece hc)

theorem proper_of_mem_mountSegments (h : Clean mount)
    (hdots : ∀ s ∈ mountSegments mount, s ≠ "." ∧ s ≠ "..") {s : String}
    (hs : s ∈ mountSegments mount) : Proper (strip s) := by
  rw [Url.strip_eq_self.2 (clean_of_mem_mountSegments h hs)]
  have hne : s ≠ "" := by
    simpa using (List.mem_filter.1 hs).2
  exact ⟨hne, hdots s hs⟩

theorem stem_eq_folder (h : base.scheme ≠ "file") (hmount : Clean mount)
    (hdots : ∀ s ∈ mountSegments mount, s ≠ "." ∧ s ≠ "..") :
    stem base mount = folder base mount := by
  have hadded : ∀ s ∈ mountSegments mount, Proper (strip s) := fun s =>
    proper_of_mem_mountSegments hmount hdots
  rw [stem, List.foldl_cons, Url.pushSegment_proper h (by decide),
    Url.foldl_pushSegment h hadded (Url.append_encodeSegment_ne (by decide) _),
    Url.encodeSegment_v1, List.append_assoc]
  rfl

theorem trunk_folder (base : Url) (mount : String) :
    trunk (folder base mount) = folder base mount := by
  apply Url.trunk_of_ne
  intro h
  have hmem : "v1" ∈ folder base mount := by simp [folder]
  simp [h] at hmem

/-- One more segment behind the folder, which is read back as the name. -/
def Holds (base : Url) (mount name : String) (u : Url) : Prop :=
  ∃ segment, u.path = .segments (folder base mount ++ [segment]) ∧ segment ≠ "" ∧
    Percent.decode? segment = some name

theorem not_holds_of_empty {path : List String} (h : u.path = .segments (path ++ [""])) :
    ¬ Holds base mount name u := by
  rintro ⟨segment, hpath, hne, -⟩
  rw [h, UrlPath.segments.injEq] at hpath
  have hlast := List.append_inj_right' hpath rfl
  exact hne (List.singleton_inj.1 hlast).symm

theorem holds_iff (hscheme : base.scheme ≠ "file") (hmount : Clean mount)
    (hdots : ∀ s ∈ mountSegments mount, s ≠ "." ∧ s ≠ "..")
    (hu : secretUrl base mount name = .ok u) : Holds base mount name u ↔ Clean name := by
  obtain ⟨hname, rfl⟩ := secretUrl_eq_ok.1 hu
  rw [stem_eq_folder hscheme hmount hdots]
  by_cases hproper : Proper (strip name)
  · rw [Url.pushSegment_proper hscheme hproper, trunk_folder, ← Url.strip_eq_self]
    constructor
    · rintro ⟨segment, hpath, -, hdecoded⟩
      rw [UrlPath.segments.injEq] at hpath
      have hlast := List.append_inj_right' hpath rfl
      rw [← List.singleton_inj.1 hlast, Url.decode?_encodeSegment] at hdecoded
      exact Option.some.inj hdecoded
    · intro hstrip
      refine ⟨_, rfl, Url.encodeSegment_ne_empty hproper, ?_⟩
      rw [Url.decode?_encodeSegment, hstrip]
  · have hunclean : ¬ Clean name :=
      fun hclean => hproper ((Url.strip_eq_self.2 hclean).symm ▸ hname)
    refine iff_of_false ?_ hunclean
    rcases Url.pushSegment_improper hscheme hname.2 hproper (folder base mount) with hpath | hpath
    · exact not_holds_of_empty (congrArg UrlPath.segments hpath)
    · exact not_holds_of_empty (congrArg UrlPath.segments hpath)

/-- Of the address only the path changes, and every name but nothing and dots gets a URL.  Behind
the folder that URL has the name in one segment exactly when no tab and no line end is in the name.
Without them two names have two URLs; with them, a name has the URL of what is left of it. -/
theorem secretUrl_holds_iff (hscheme : base.scheme = "http" ∨ base.scheme = "https")
    (hmount : Clean mount) (hdots : ∀ s ∈ mountSegments mount, s ≠ "." ∧ s ≠ "..") :
    (∀ name, (∃ u, secretUrl base mount name = .ok u) ↔ Proper name) ∧
    (∀ name u, secretUrl base mount name = .ok u →
      u = { base with path := u.path } ∧ (Holds base mount name u ↔ Clean name)) ∧
    ∀ name other u u', secretUrl base mount name = .ok u → secretUrl base mount other = .ok u' →
      Proper (strip name) → Proper (strip other) →
      (u.render = u'.render ↔ strip name = strip other) := by
  have hfile : base.scheme ≠ "file" := by
    rcases hscheme with h | h <;> simp [h]
  refine ⟨fun name => ?_, fun name u hu => ⟨?_, holds_iff hfile hmount hdots hu⟩, ?_⟩
  · simp [secretUrl_eq_ok]
  · rw [(secretUrl_eq_ok.1 hu).2]
  · intro name other u u' hu hu' hname hother
    exact render_secretUrl_inj hfile hu hu' hname hother

theorem secretUrl_holds_iff_slashes :
    let mount := "/secret//token"
    let base : Url := ⟨"http", .authority .nobody (some "[::1]") (some 8200), .segments ["kv", ""],
      some "list", none⟩
    let path (last : String) : UrlPath := .segments ["kv", "v1", "secret", "token", last]
    let u : Url := { base with path := path "a%2F..%2Fb" }
    let u' : Url := { base with path := path "a%252F..%252Fb" }
    Url.parse "http://[::1]:8200/kv/?list" = .ok base ∧
    (base.scheme = "http" ∨ base.scheme = "https") ∧
      Clean mount ∧ (∀ s ∈ mountSegments mount, s ≠ "." ∧ s ≠ "..") ∧
      secretUrl base mount "a/../b" = .ok u ∧ secretUrl base mount "a%2F..%2Fb" = .ok u' ∧
      Holds base mount "a/../b" u ∧ Holds base mount "a%2F..%2Fb" u' ∧ u.render ≠ u'.render := by
  intro mount base path u u'
  have hbase : Url.parse "http://[::1]:8200/kv/?list" = .ok base := by decide +kernel
  have hscheme : base.scheme = "http" ∨ base.scheme = "https" := .inl rfl
  have hmount : Clean mount := by decide
  have hdots : ∀ s ∈ mountSegments mount, s ≠ "." ∧ s ≠ ".." := by decide
  have hu : secretUrl base mount "a/../b" = .ok u := by decide +kernel
  have hu' : secretUrl base mount "a%2F..%2Fb" = .ok u' := by decide +kernel
  obtain ⟨-, hholds, hinj⟩ := secretUrl_holds_iff hscheme hmount hdots
  refine ⟨hbase, hscheme, hmount, hdots, hu, hu', (hholds _ u hu).2.2 (by decide),
    (hholds _ u' hu').2.2 (by decide), ?_⟩
  rw [ne_eq, hinj _ _ u u' hu hu' (by decide) (by decide)]
  decide

/-- A tab makes another name of a name, but no other URL; and between two dots it lets a name
through that leads out of the folder. -/
theorem secretUrl_shared :
    let mount := "secret/token"
    let base : Url :=
      ⟨"http", .authority .nobody (some "[::1]") (some 8200), .segments [""], none, none⟩
    let shared : Url := { base with path := .segments ["v1", "secret", "token", "ab"] }
    let outside : Url := { base with path := .segments ["v1", "secret", ""] }
    Url.parse "http://[::1]:8200" = .ok base ∧ Clean mount ∧
      (∀ s ∈ mountSegments mount, s ≠ "." ∧ s ≠ "..") ∧
      secretUrl base mount "ab" = .ok shared ∧ secretUrl base mount "a\tb" = .ok shared ∧
      secretUrl base mount ".\t." = .ok outside := by
  intro mount base shared outside
  exact ⟨by decide +kernel, by decide, by decide, by decide +kernel, by decide +kernel,
    by decide +kernel⟩

end Vault

end SchemaRegistry
