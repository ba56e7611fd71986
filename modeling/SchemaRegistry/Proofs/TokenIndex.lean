import Mathlib.Data.List.Induction
import Mathlib.Data.List.Infix
import SchemaRegistry.Proofs.Listing

/-!
The index from tokens to users.  Who is found by a token has that token now; but when two users
share one, the first of them to be given another takes the entry of both away.
-/

namespace SchemaRegistry

namespace Directory

variable {d : Directory} {u : User} {name token : String}

theorem byName_add (d : Directory) (u : User) (name : String) :
    (d.add u).byName.get? name = if name = u.name then some u else d.byName.get? name :=
  userByName?_add d u name

theorem byToken_add (d : Directory) (u : User) (token : String) :
    (d.add u).byToken.get? token =
      if token = u.token then some u.name
      else if (d.byName.get? u.name).map (·.token) = some token then none
      else d.byToken.get? token := by
  rw [add, Table.get?_insert]
  split
  · rfl
  · cases d.byName.get? u.name with
    | none => rfl
    | some previous => simp only [Table.get?_erase, Option.map_some, Option.some.injEq, eq_comm]

/-- Users are under their names, and the index leads to users of the token only. -/
structure Sound (d : Directory) : Prop where
  name : ∀ {name u}, d.byName.get? name = some u → u.name = name
  token : ∀ {token name}, d.byToken.get? token = some name →
    ∃ u, d.byName.get? name = some u ∧ u.token = token

theorem sound_empty : (∅ : Directory).Sound := ⟨nofun, nofun⟩

theorem Sound.add (h : d.Sound) (u : User) : (d.add u).Sound where
  name {name v} hv := by
    rw [byName_add] at hv
    split at hv
    · next hname =>
      cases hv
      exact hname.symm
    · exact h.name hv
  token {token name} hget := by
    rw [byToken_add] at hget
    rw [byName_add]
    split at hget
    · next htoken =>
      cases hget
      exact ⟨u, if_pos rfl, htoken.symm⟩
    · split at hget
      · cases hget
      · next hkept =>
        obtain ⟨v, hv, hvtoken⟩ := h.token hget
        -- the entry of this user's own token would have been dropped
        have hname : name ≠ u.name := by
          rintro rfl
          exact hkept (by rw [hv, Option.map_some, hvtoken])
        exact ⟨v, by rw [if_neg hname, hv], hvtoken⟩

theorem Sound.userByToken?_eq_some_iff (h : d.Sound) :
    d.userByToken? token = some u ↔
      d.byToken.get? token = some u.name ∧ d.byName.get? u.name = some u := by
  rw [userByToken?, Option.bind_eq_bind, Option.bind_eq_some_iff]
  constructor
  · rintro ⟨name, hget, hu⟩
    cases h.name hu
    exact ⟨hget, hu⟩
  · exact fun ⟨hget, hu⟩ => ⟨u.name, hget, hu⟩

theorem Sound.current (h : d.Sound) (hu : d.userByToken? token = some u) :
    d.userByName? u.name = some u ∧ u.token = token := by
  obtain ⟨hget, hu⟩ := h.userByToken?_eq_some_iff.1 hu
  obtain ⟨v, hv, hvtoken⟩ := h.token hget
  cases hu.symm.trans hv
  exact ⟨hu, hvtoken⟩

theorem Sound.isSome_userByToken? (h : d.Sound) (token : String) :
    (d.userByToken? token).isSome = (d.byToken.get? token).isSome := by
  rw [userByToken?, Option.bind_eq_bind]
  cases hget : d.byToken.get? token with
  | none => rfl
  | some name =>
    obtain ⟨u, hu, -⟩ := h.token hget
    rw [Option.bind_some, hu]
    rfl

def Distinct (d : Directory) : Prop := (d.byName.values.map (·.token)).Nodup

instance : DecidablePred Distinct := fun d =>
  inferInstanceAs (Decidable (d.byName.values.map (·.token)).Nodup)

theorem Distinct.eq {m : String} {v : User} (h : d.Distinct) (hu : d.byName.get? name = some u)
    (hv : d.byName.get? m = some v) (htoken : u.token = v.token) : name = m := by
  have hentries : (d.byName.entries.map (·.2.token)).Nodup := by
    rwa [Distinct, Table.values, List.map_map] at h
  have hmem {k : String} {w : User} (hw : d.byName.get? k = some w) : (k, w) ∈ d.byName.entries :=
    (Table.mem_entries_iff ..).2 hw
  exact congrArg Prod.fst (List.inj_on_of_nodup_map hentries (hmem hu) (hmem hv) htoken)

theorem distinct_of (h : ∀ {name m u v}, d.byName.get? name = some u → d.byName.get? m = some v →
    u.token = v.token → name = m) : d.Distinct := by
  have hnodup : d.byName.entries.Nodup :=
    d.byName.ordered.imp fun hlt heq => KeyLt.ne hlt (congrArg Prod.fst heq)
  rw [Distinct, Table.values, List.map_map]
  refine hnodup.map_on fun e he f hf htoken => ?_
  have he := (Table.mem_entries_iff ..).1 he
  have hf := (Table.mem_entries_iff ..).1 hf
  have hname : e.1 = f.1 := h he hf htoken
  rw [hname, hf] at he
  exact Prod.ext hname (Option.some.inj he).symm

def Complete (d : Directory) : Prop :=
  ∀ name u, d.byName.get? name = some u → d.byToken.get? u.token = some name

theorem Complete.add (h : d.Complete) (hbefore : d.Distinct) (hafter : (d.add u).Distinct) :
    (d.add u).Complete := by
  intro name v hv
  have hgiven : (d.add u).byName.get? u.name = some u := by rw [byName_add, if_pos rfl]
  by_cases hname : name = u.name
  · subst hname
    cases hgiven.symm.trans hv
    rw [byToken_add, if_pos rfl]
  · have hv' : d.byName.get? name = some v := by rwa [byName_add, if_neg hname] at hv
    have hfresh : v.token ≠ u.token := fun htoken => hname (hafter.eq hv hgiven htoken)
    have hkept : (d.byName.get? u.name).map (·.token) ≠ some v.token := fun hprevious => by
      obtain ⟨w, hw, hwtoken⟩ := Option.map_eq_some_iff.1 hprevious
      exact hname (hbefore.eq hv' hw hwtoken.symm)
    rw [byToken_add, if_neg hfresh, if_neg hkept, h name v hv']

end Directory

def Change.Gives (token : String) : Change → Prop
  | user u => u.token = token
  | _ => False

instance (token : String) : DecidablePred (Change.Gives token)
  | .user u => inferInstanceAs (Decidable (u.token = token))
  | .schema .. => inferInstanceAs (Decidable False)
  | .globalLevel .. => inferInstanceAs (Decidable False)
  | .subjectLevel .. => inferInstanceAs (Decidable False)

namespace Cache

open Directory (Distinct Sound Complete)

/-- A change gives another token to a user who has this one. -/
def Leaves (c : Cache) (token : String) : Change → Prop
  | .user u => (c.users.byName.get? u.name).map (·.token) = some token ∧ u.token ≠ token
  | _ => False

instance (c : Cache) (token : String) : DecidablePred (c.Leaves token)
  | .user u => inferInstanceAs (Decidable (_ ∧ u.token ≠ token))
  | .schema .. => inferInstanceAs (Decidable False)
  | .globalLevel .. => inferInstanceAs (Decidable False)
  | .subjectLevel .. => inferInstanceAs (Decidable False)

variable {changes : List Change} {change : Change} {token name : String} {u : User}

theorem of_concat (changes : List Change) (change : Change) :
    of (changes ++ [change]) = (of changes).apply change :=
  of_append changes [change]

theorem users_apply_cases (c : Cache) (token : String) (change : Change) :
    (∃ u, change = .user u ∧ (c.apply change).users = c.users.add u) ∨
    (c.apply change).users = c.users ∧ ¬ change.Gives token ∧ ¬ c.Leaves token change := by
  cases change with
  | user u => exact .inl ⟨u, rfl, rfl⟩
  | schema => exact .inr ⟨rfl, id, id⟩
  | globalLevel => exact .inr ⟨rfl, id, id⟩
  | subjectLevel => exact .inr ⟨rfl, id, id⟩

theorem sound_of (changes : List Change) : (of changes).users.Sound := by
  induction changes using List.reverseRecOn with
  | nil => exact Directory.sound_empty
  | append_singleton changes change ih =>
    rw [of_concat]
    rcases (of changes).users_apply_cases "" change with ⟨u, -, husers⟩ | ⟨husers, -, -⟩
    · exact husers ▸ ih.add u
    · exact husers ▸ ih

theorem complete_of (h : ∀ front, front <+: changes → (of front).users.Distinct) :
    (of changes).users.Complete := by
  induction changes using List.reverseRecOn with
  | nil => exact nofun
  | append_singleton changes change ih =>
    have hfront : changes <+: changes ++ [change] := List.prefix_append ..
    have hafter := h _ (List.prefix_refl _)
    have hcomplete := ih fun front hle => h front (hle.trans hfront)
    rw [of_concat] at hafter ⊢
    rcases (of changes).users_apply_cases "" change with ⟨u, -, husers⟩ | ⟨husers, -, -⟩
    · rw [husers] at hafter ⊢
      exact hcomplete.add (h changes hfront) hafter
    · exact husers ▸ hcomplete

/-- Whenever a user of a token was given another one, the token was given to somebody afterwards. -/
def Kept (token : String) (changes : List Change) : Prop :=
  ∀ i (_ : i < changes.length), (of (changes.take i)).Leaves token changes[i] →
    ∃ given ∈ changes.drop (i + 1), given.Gives token

instance (token : String) (changes : List Change) : Decidable (Kept token changes) :=
  inferInstanceAs (Decidable (∀ i (_ : i < changes.length), _ → _))

theorem kept_concat : Kept token (changes ++ [change]) ↔
    ¬ (of changes).Leaves token change ∧ (change.Gives token ∨ Kept token changes) := by
  have hlength : (changes ++ [change]).length = changes.length + 1 := List.length_append
  -- up to the last change nothing differs but what is given afterwards
  have hfront {i : Nat} (hi : i < changes.length) :
      ((of ((changes ++ [change]).take i)).Leaves token (changes ++ [change])[i] →
        ∃ given ∈ (changes ++ [change]).drop (i + 1), given.Gives token) ↔
      ((of (changes.take i)).Leaves token changes[i] →
        change.Gives token ∨ ∃ given ∈ changes.drop (i + 1), given.Gives token) := by
    rw [List.take_append_of_le_length (Nat.le_of_lt hi), List.getElem_append_left hi,
      List.drop_append_of_le_length hi]
    simp only [List.mem_append, List.mem_singleton, or_and_right, exists_or, exists_eq_left,
      or_comm]
  constructor
  · intro h
    refine ⟨fun hleaves => ?_, ?_⟩
    · obtain ⟨given, hgiven, -⟩ := h changes.length (by omega) (by simpa using hleaves)
      rw [List.drop_of_length_le (Nat.le_of_eq hlength)] at hgiven
      cases hgiven
    · by_cases hgives : change.Gives token
      · exact .inl hgives
      · refine .inr fun i hi hleaves => ?_
        exact ((hfront hi).1 (h i (by omega)) hleaves).resolve_left hgives
  · rintro ⟨hleaves, h⟩ i hi
    by_cases hlast : i < changes.length
    · refine (hfront hlast).2 fun hfirst => ?_
      exact h.imp_right fun hkept => hkept i hlast hfirst
    · obtain rfl : i = changes.length := by omega
      intro hlast
      exact absurd (by simpa using hlast) hleaves

theorem isSome_byToken_of : ((of changes).users.byToken.get? token).isSome ↔
    (∃ given ∈ changes, given.Gives token) ∧ Kept token changes := by
  induction changes using List.reverseRecOn with
  | nil => exact ⟨nofun, fun ⟨⟨_, hgiven, _⟩, _⟩ => nomatch hgiven⟩
  | append_singleton changes change ih =>
    simp only [of_concat, kept_concat, List.mem_append, List.mem_singleton, or_and_right, exists_or,
      exists_eq_left]
    rcases (of changes).users_apply_cases token change with
      ⟨u, rfl, husers⟩ | ⟨husers, hgives, hleaves⟩
    · rw [husers, Directory.byToken_add]
      have hgives : (Change.user u).Gives token ↔ u.token = token := Iff.rfl
      have hleaves : (of changes).Leaves token (.user u) ↔
          ((of changes).users.byName.get? u.name).map (·.token) = some token ∧ u.token ≠ token :=
        Iff.rfl
      rw [hgives, hleaves]
      split
      · next htoken => simp [htoken]
      · next htoken =>
        split
        · next hprevious => simp [hprevious, Ne.symm htoken]
        · next hprevious => simp [hprevious, Ne.symm htoken, ih]
    · rw [husers, ih]
      simp [hgives, hleaves]

theorem mem_of_byName {name : String} (h : (of changes).users.byName.get? name = some u) :
    Change.user u ∈ changes := by
  induction changes using List.reverseRecOn with
  | nil => cases h
  | append_singleton changes change ih =>
    rw [of_concat] at h
    rcases (of changes).users_apply_cases "" change with ⟨v, rfl, husers⟩ | ⟨husers, -, -⟩
    · rw [husers, Directory.byName_add] at h
      split at h
      · cases h
        simp
      · exact List.mem_append_left _ (ih h)
    · rw [husers] at h
      exact List.mem_append_left _ (ih h)

/-- Whatever was changed, who is found by a token is a user of today with that token.  As long as no
two users ever had one token, each user of today is found. -/
theorem userByToken?_current (changes : List Change) :
    (∀ token u, (of changes).view.userByToken? token = some u →
      (of changes).view.userByName? u.name = some u ∧ u.token = token) ∧
    ((∀ front, front <+: changes → (of front).users.Distinct) →
      ∀ token u, (of changes).view.userByToken? token = some u ↔
        (of changes).view.userByName? u.name = some u ∧ u.token = token) := by
  have hsound := sound_of changes
  refine ⟨fun token u => hsound.current, fun hdistinct token u => ⟨hsound.current, ?_⟩⟩
  rintro ⟨hu, rfl⟩
  exact hsound.userByToken?_eq_some_iff.2 ⟨complete_of hdistinct u.name u hu, hu⟩

theorem userByToken?_current_passed :
    let changes : List Change := [.user ⟨"a", "s", false⟩, .user ⟨"b", "t", true⟩,
      .user ⟨"a", "r", false⟩, .user ⟨"c", "s", false⟩, .user ⟨"a", "r", true⟩]
    (∀ front, front <+: changes → (of front).users.Distinct) ∧
    (of changes).view.userByToken? "s" = some ⟨"c", "s", false⟩ ∧
    (of changes).view.userByToken? "r" = some ⟨"a", "r", true⟩ := by
  intro changes
  have hdistinct : ∀ front, front <+: changes → (of front).users.Distinct := fun front hfront =>
    (by decide : ∀ front ∈ changes.inits, (of front).users.Distinct) front
    ((List.mem_inits ..).2 hfront)
  obtain ⟨-, hfound⟩ := userByToken?_current changes
  exact ⟨hdistinct, (hfound hdistinct ..).2 (by decide), (hfound hdistinct ..).2 (by decide)⟩

/-- A user's token leads to a user of the token exactly when it was given to somebody after anyone
who had it was given another. -/
theorem userByToken?_kept_iff (hu : (of changes).view.userByName? name = some u) :
    (∃ v, (of changes).view.userByToken? u.token = some v ∧
      (of changes).view.userByName? v.name = some v ∧ v.token = u.token) ↔
    Kept u.token changes := by
  have hsound := sound_of changes
  have hgiven : ∃ given ∈ changes, given.Gives u.token := ⟨_, mem_of_byName hu, rfl⟩
  calc
    _ ↔ ((of changes).users.userByToken? u.token).isSome := by
      rw [Option.isSome_iff_exists]
      exact ⟨fun ⟨v, hv, _⟩ => ⟨v, hv⟩, fun ⟨v, hv⟩ => ⟨v, hv, hsound.current hv⟩⟩
    _ ↔ ((of changes).users.byToken.get? u.token).isSome := by rw [hsound.isSome_userByToken?]
    _ ↔ Kept u.token changes := by rw [isSome_byToken_of, and_iff_right hgiven]

theorem userByToken?_kept_iff_shared :
    let changes : List Change := [.user ⟨"a", "t", false⟩, .user ⟨"b", "t", false⟩,
      .user ⟨"a", "s", false⟩, .globalLevel "t" .full, .user ⟨"b", "t", true⟩,
      .user ⟨"c", "t", false⟩]
    (of changes).view.userByName? "b" = some ⟨"b", "t", true⟩ ∧
    ∃ v, (of changes).view.userByToken? "t" = some v ∧
      (of changes).view.userByName? v.name = some v ∧ v.token = "t" := by
  intro changes
  have hu : (of changes).view.userByName? "b" = some ⟨"b", "t", true⟩ := by decide
  exact ⟨hu, (userByToken?_kept_iff hu).2 (by decide)⟩

/-- Of two users with one token, the one who keeps it is not found when the other is given
another. -/
theorem userByToken?_lost :
    let changes : List Change := [.user ⟨"a", "t", false⟩, .user ⟨"b", "t", false⟩,
      .user ⟨"a", "s", false⟩]
    (of changes).view.userByName? "b" = some ⟨"b", "t", false⟩ ∧
    (of changes).view.userByToken? "t" = none := by
  decide

end Cache

end SchemaRegistry
