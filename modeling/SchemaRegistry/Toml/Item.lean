import SchemaRegistry.Settings.Tree

/-!
What a TOML document builds up.  A table remembers how it came about, since that decides who may add
to it: a header may be given once, and dotted names add only to what dotted names have begun.
-/

namespace SchemaRegistry.Toml

inductive TableKind
  | implied
  | dotted
  | header
  deriving DecidableEq, Repr

inductive Item
  | value (v : Tree)
  | table (kind : TableKind) (members : List (String × Item))
  /-- Tables under one header with two brackets, the last of which is open. -/
  | tables (rows : List (List (String × Item)))

abbrev Members := List (String × Item)

namespace Item

def assign (ms : Members) (name : String) (item : Item) : Members :=
  if (ms.lookup name).isSome then ms.map fun m => if m.1 = name then (name, item) else m
  else ms ++ [(name, item)]

/-- Change the members of the table at the end of a path.  What is missing on the way is begun. -/
def descend (dotted : Bool) (change : TableKind → Members → Option Members) :
    List String → TableKind → Members → Option Members
  | [], kind, ms => change kind ms
  | name :: path, _, ms =>
    match ms.lookup name with
    | none => do
      let kind : TableKind := if dotted then .dotted else .implied
      return assign ms name (.table kind (← descend dotted change path kind []))
    | some (.value _) => none
    | some (.table kind inner) =>
      if dotted && kind = .header then none
      else do return assign ms name (.table kind (← descend dotted change path kind inner))
    | some (.tables rows) => do
      let last ← descend dotted change path .header (rows.getLast?.getD [])
      return assign ms name (.tables (rows.dropLast ++ [last]))

def beginTable (path : List String) (name : String) (root : Members) : Option Members :=
  descend false (fun _ ms =>
    match ms.lookup name with
    | none => some (assign ms name (.table .header []))
    | some (.table .implied inner) => some (assign ms name (.table .header inner))
    | _ => none) path .header root

def beginRow (path : List String) (name : String) (root : Members) : Option Members :=
  descend false (fun _ ms =>
    match ms.lookup name with
    | none => some (assign ms name (.tables [[]]))
    | some (.tables rows) => some (assign ms name (.tables (rows ++ [[]])))
    | _ => none) path .header root

def insert (header path : List String) (name : String) (v : Tree) (root : Members) :
    Option Members :=
  descend false (fun kind ms =>
    descend true (fun kind ms =>
      if (kind = .dotted) = path.isEmpty || (ms.lookup name).isSome then none
      else some (assign ms name (.value v))) path kind ms) header .header root

mutual

def toTree : Item → Tree
  | .value v => v
  | .table _ ms => .table (membersToTree ms)
  | .tables rows => .list (rowsToTree rows)

def membersToTree : List (String × Item) → List (String × Tree)
  | [] => []
  | (name, item) :: rest => (name, toTree item) :: membersToTree rest

def rowsToTree : List (List (String × Item)) → List Tree
  | [] => []
  | row :: rest => .table (membersToTree row) :: rowsToTree rest

end

end Item

end SchemaRegistry.Toml
