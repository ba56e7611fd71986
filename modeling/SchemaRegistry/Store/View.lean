import SchemaRegistry.Store.Error

/-!
Everything that can be read of a registry's state.  A store is known to readers by its view only,
and two views can be put one behind the other.
-/

namespace SchemaRegistry

/-- An answer of a store; what is not there is no failure. -/
abbrev Answer (α : Type) := Except StoreError α

structure View where
  isEmpty : Bool
  /-- The id of the first schema of a tenant with this text. -/
  id? (tenant text : String) : Answer (Option Int)
  textOfId? (tenant : String) (id : Int) : Answer (Option String)
  subjects (tenant : String) : Answer (List String)
  versions? (tenant subject : String) : Answer (Option (List Nat))
  text? (tenant subject : String) (version : Nat) : Answer (Option String)
  latest? (tenant subject : String) : Answer (Option Schema)
  /-- The lowest version of a subject with this text. -/
  find? (tenant subject text : String) : Answer (Option Schema)
  globalLevel? (tenant : String) : Answer (Option Level)
  subjectLevel? (tenant subject : String) : Answer (Option Level)
  userByName? (name : String) : Option User
  userByToken? (token : String) : Option User

namespace View

def failing (cause : StoreError) : View where
  isEmpty := false
  id? _ _ := .error cause
  textOfId? _ _ := .error cause
  subjects _ := .error cause
  versions? _ _ := .error cause
  text? _ _ _ := .error cause
  latest? _ _ := .error cause
  find? _ _ _ := .error cause
  globalLevel? _ := .error cause
  subjectLevel? _ _ := .error cause
  userByName? _ := none
  userByToken? _ := none

/-- The first answer, unless it is a failure or nothing. -/
def orElse {α : Type} (first second : Answer (Option α)) : Answer (Option α) :=
  match first with
  | .ok (some a) => .ok (some a)
  | .ok none => second
  | .error _ => second

@[simp] theorem orElse_some {α : Type} (a : α) (second : Answer (Option α)) :
    orElse (.ok (some a)) second = .ok (some a) := rfl

@[simp] theorem orElse_none {α : Type} (second : Answer (Option α)) :
    orElse (.ok none) second = second := rfl

@[simp] theorem orElse_error {α : Type} (e : StoreError) (second : Answer (Option α)) :
    orElse (.error e) second = second := rfl

def orElseList {α : Type} (first second : Answer (List α)) : Answer (List α) :=
  match first with
  | .ok (a :: as) => .ok (a :: as)
  | .ok [] => second
  | .error _ => second

/-- Reads go to the front, and to the back for what the front does not have or cannot tell.  Users
are in front only. -/
def through (front back : View) : View where
  isEmpty := front.isEmpty && back.isEmpty
  id? tenant text := orElse (front.id? tenant text) (back.id? tenant text)
  textOfId? tenant id := orElse (front.textOfId? tenant id) (back.textOfId? tenant id)
  subjects tenant := orElseList (front.subjects tenant) (back.subjects tenant)
  versions? tenant subject :=
    orElse (front.versions? tenant subject) (back.versions? tenant subject)
  text? tenant subject version :=
    orElse (front.text? tenant subject version) (back.text? tenant subject version)
  latest? tenant subject := orElse (front.latest? tenant subject) (back.latest? tenant subject)
  find? tenant subject text :=
    orElse (front.find? tenant subject text) (back.find? tenant subject text)
  globalLevel? tenant := orElse (front.globalLevel? tenant) (back.globalLevel? tenant)
  subjectLevel? tenant subject :=
    orElse (front.subjectLevel? tenant subject) (back.subjectLevel? tenant subject)
  userByName? := front.userByName?
  userByToken? := front.userByToken?

end View

end SchemaRegistry
