import SchemaRegistry.Number.Binary64
import SchemaRegistry.Table

/-!
JSON values.  Members of an object have distinct names in byte order.  Two values are the same when
they differ at most in the sign of zeros.
-/

namespace SchemaRegistry.Json

/-- A number is whole when it is written without point and exponent and fits a machine word;
any other is a binary fraction, and differs from every whole one. -/
inductive Number
  | whole (i : Int)
  | real (x : Binary64)
  deriving DecidableEq, Repr

def Number.same : Number → Number → Bool
  | .whole i, .whole j => i = j
  | .real x, .real y => x.same y
  | _, _ => false

@[simp] theorem Number.same_self (n : Number) : n.same n = true := by cases n <;> simp [same]

theorem Number.same_comm (m n : Number) : m.same n = n.same m := by
  cases m <;> cases n <;> simp [same, Binary64.same_comm, eq_comm]

inductive Value
  | null
  | bool (b : Bool)
  | number (n : Number)
  | string (s : String)
  | array (items : List Value)
  | object (members : List (String × Value))
  deriving Repr

namespace Value

def member? (v : Value) (name : String) : Option Value :=
  match v with
  | .object members => members.lookup name
  | _ => none

def string? : Value → Option String
  | .string s => some s
  | _ => none

def items? : Value → Option (List Value)
  | .array items => some items
  | _ => none

mutual

def same : Value → Value → Bool
  | .null, .null => true
  | .bool a, .bool b => a = b
  | .number m, .number n => m.same n
  | .string s, .string t => s = t
  | .array xs, .array ys => sameItems xs ys
  | .object xs, .object ys => sameMembers xs ys
  | _, _ => false

def sameItems : List Value → List Value → Bool
  | [], [] => true
  | x :: xs, y :: ys => same x y && sameItems xs ys
  | _, _ => false

def sameMembers : List (String × Value) → List (String × Value) → Bool
  | [], [] => true
  | (j, x) :: xs, (k, y) :: ys => j = k && same x y && sameMembers xs ys
  | _, _ => false

end

mutual

theorem same_self : (v : Value) → same v v = true
  | .null => rfl
  | .bool _ => by simp [same]
  | .number _ => by simp [same]
  | .string _ => by simp [same]
  | .array xs => by simp [same, sameItems_self xs]
  | .object xs => by simp [same, sameMembers_self xs]

theorem sameItems_self : (xs : List Value) → sameItems xs xs = true
  | [] => by simp [sameItems]
  | x :: xs => by simp [sameItems, same_self x, sameItems_self xs]

theorem sameMembers_self : (xs : List (String × Value)) → sameMembers xs xs = true
  | [] => by simp [sameMembers]
  | (_, x) :: xs => by simp [sameMembers, same_self x, sameMembers_self xs]

end

mutual

theorem same_comm : (v w : Value) → v.same w = w.same v
  | .null, w => by cases w <;> rfl
  | .bool _, w => by cases w <;> simp only [same, eq_comm]
  | .number _, w => by cases w <;> simp only [same, Number.same_comm]
  | .string _, w => by cases w <;> simp only [same, eq_comm]
  | .array xs, w => by
    cases w with
    | array ys => simp only [same, sameItems_comm xs ys]
    | _ => rfl
  | .object xs, w => by
    cases w with
    | object ys => simp only [same, sameMembers_comm xs ys]
    | _ => rfl

theorem sameItems_comm : (xs ys : List Value) → sameItems xs ys = sameItems ys xs
  | [], ys => by cases ys <;> simp only [sameItems]
  | x :: xs, ys => by
    cases ys with
    | nil => simp only [sameItems]
    | cons y ys => simp only [sameItems, same_comm x y, sameItems_comm xs ys]

theorem sameMembers_comm : (xs ys : List (String × Value)) → sameMembers xs ys = sameMembers ys xs
  | [], ys => by cases ys <;> simp only [sameMembers]
  | (_, x) :: xs, ys => by
    cases ys with
    | nil => simp only [sameMembers]
    | cons m ys => simp only [sameMembers, same_comm x m.2, sameMembers_comm xs ys, eq_comm]

end

/-- An object from members as they are met: of equal names the last counts. -/
def ofMembers (members : List (String × Value)) : Value :=
  .object (members.foldl (fun es m => Table.insertEntry m.1 m.2 es) [])

end Value

end SchemaRegistry.Json
