import SchemaRegistry.Proofs.Mirror

/-!
A durable store can take the place of one in memory.  Given the same changes, both hand out the same
versions, and afterwards both give the same answer to every read.
-/

namespace SchemaRegistry.Backend

open Change (Storable)
open Cache (of)

def versionFor (b : Backend) : Change → Answer (Option Nat)
  | .schema tenant subject _ _ => return some (← b.nextVersion tenant subject)
  | _ => .ok none

def make (b : Backend) (change : Change) : Answer (Option Nat × Backend) := do
  let version? ← b.versionFor change
  return (version?, ← b.apply change)

def makeAll (b : Backend) : List Change → Answer (List (Option Nat) × Backend)
  | [] => .ok ([], b)
  | change :: changes => do
    let (version?, b) ← b.make change
    let (versions, b) ← makeAll b changes
    return (version? :: versions, b)

variable {d : Database} {changes : List Change}

theorem versionFor_mirrors (h : d.Mirrors (of changes)) {change : Change}
    (hfit : Storable (changes ++ [change])) :
    ∃ version?, (database d).versionFor change = .ok version? ∧
      (cache (of changes)).versionFor change = .ok version? := by
  cases change with
  | schema t u id text =>
    have hfits : (Change.schema t u id text).Fits := hfit.fits _ (by simp)
    have hversion := h.nextVersion_eq hfit.left hfits.1 u
    refine ⟨some ((of changes).nextVersion t u), ?_, rfl⟩
    simp only [versionFor, nextVersion, hversion, bind, Except.bind]
    rfl
  | globalLevel => exact ⟨none, rfl, rfl⟩
  | subjectLevel => exact ⟨none, rfl, rfl⟩
  | user => exact ⟨none, rfl, rfl⟩

theorem make_mirrors (h : d.Mirrors (of changes)) {change : Change}
    (hfit : Storable (changes ++ [change])) :
    ∃ version? d', (database d).make change = .ok (version?, .database d') ∧
      (cache (of changes)).make change = .ok (version?, .cache (of (changes ++ [change]))) ∧
      d'.Mirrors (of (changes ++ [change])) := by
  obtain ⟨d', happly, hd'⟩ := h.apply hfit
  obtain ⟨version?, hdatabase, hcache⟩ := versionFor_mirrors h hfit
  refine ⟨version?, d', ?_, ?_, hd'⟩
  · simp only [make, hdatabase, apply, happly, bind, Except.bind]
    rfl
  · rw [Cache.of_append]
    simp only [make, hcache, apply, bind, Except.bind]
    rfl

theorem makeAll_mirrors (h : d.Mirrors (of changes)) {more : List Change}
    (hfit : Storable (changes ++ more)) :
    ∃ versions d', (database d).makeAll more = .ok (versions, .database d') ∧
      (cache (of changes)).makeAll more = .ok (versions, .cache (of (changes ++ more))) ∧
      d'.Mirrors (of (changes ++ more)) := by
  induction more generalizing d changes with
  | nil =>
    rw [List.append_nil]
    exact ⟨[], d, rfl, rfl, h⟩
  | cons change more ih =>
    rw [List.append_cons] at hfit ⊢
    obtain ⟨version?, d₁, hdatabase, hcache, h₁⟩ := make_mirrors h hfit.left
    obtain ⟨versions, d₂, hmore, hcachemore, h₂⟩ := ih h₁ hfit
    refine ⟨version? :: versions, d₂, ?_, ?_, h₂⟩
    · simp only [makeAll, hdatabase, hmore, bind, Except.bind]
      rfl
    · simp only [makeAll, hcache, hcachemore, bind, Except.bind]
      rfl

/-- A new database and a new cache, changed alike, are the same to every reader. -/
theorem makeAll_interchangeable {changes : List Change} (hfit : Storable changes) :
    ∃ versions d c, (database ∅).makeAll changes = .ok (versions, .database d) ∧
      (cache ∅).makeAll changes = .ok (versions, .cache c) ∧
      d.view.isEmpty = c.view.isEmpty ∧
      ∀ tenant, Key.Plain tenant → d.view.SameFor c.view tenant := by
  obtain ⟨versions, d, hdatabase, hcache, h⟩ := makeAll_mirrors Database.mirrors_empty hfit
  exact ⟨versions, d, of changes, hdatabase, hcache, h.isEmpty_eq, fun _ ht => h.sameFor hfit ht⟩

theorem makeAll_interchangeable_prefixes :
    let changes : List Change := [.schema "t" "a" 7 "x", .schema "t" "" 5 "x", .schema "" "t" 1 "y",
      .subjectLevel "t" "a" .full, .schema "t" "a-b" (-2) "z", .schema "t" "a" 7 "y"]
    Storable changes ∧
    ∃ d, (database ∅).makeAll changes =
        .ok ([some 1, some 1, some 1, none, some 1, some 2], .database d) ∧
      d.view.subjects "t" = .ok ["", "a", "a-b"] ∧ d.view.id? "t" "x" = .ok (some 5) ∧
      d.view.textOfId? "t" 7 = .ok (some "x") ∧
      d.view.latest? "t" "a" = .ok (some ⟨"a", 7, 2, "y"⟩) := by
  intro changes
  have hfit : Storable changes := .of_length (by decide) (by decide)
  obtain ⟨versions, d, c, hdatabase, hcache, -, hsame⟩ := makeAll_interchangeable hfit
  have hrun : (cache ∅).makeAll changes =
      .ok ([some 1, some 1, some 1, none, some 1, some 2], .cache (of changes)) := rfl
  cases hcache.symm.trans hrun
  have h := hsame "t" (by decide)
  refine ⟨hfit, d, hdatabase, h.subjects.trans ?_, (h.id "x").trans ?_, (h.textOfId 7).trans ?_,
    (h.latest "a").trans ?_⟩ <;> decide

end SchemaRegistry.Backend
