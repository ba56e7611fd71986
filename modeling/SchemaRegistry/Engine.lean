import SchemaRegistry.Replay

/-!
The replay engine: one reader for each stream that is watched, each from the start of its stream.
Positions are kept only as long as the engine runs.
-/

namespace SchemaRegistry

structure Engine where
  batch : Nat
  /-- The readers, in the order in which their streams were first watched. -/
  cursors : List Cursor
  deriving DecidableEq, Repr

namespace Engine

def new (batch : Nat) : Engine := ⟨batch, []⟩

def isWatching (e : Engine) (stream : String) : Bool := e.cursors.any (·.stream = stream)

def watch (e : Engine) (stream : String) : Engine :=
  if e.isWatching stream then e else { e with cursors := e.cursors ++ [.start stream] }

def streams (e : Engine) : List String :=
  (Table.ofList (e.cursors.map fun c => (c.stream, ()))).keys

def shutdown (e : Engine) : Engine := { e with cursors := [] }

/-- Bring each reader in turn to the end of its stream.  One whose fetch fails stays there. -/
def settleAll (batch : Nat) : List Cursor → Storage → List Cursor × Storage
  | [], s => ([], s)
  | c :: cs, s =>
    let (_, c, _, s) := Storage.toCache.toEnd batch c s
    let (cs, s) := settleAll batch cs s
    (c :: cs, s)

def settle (e : Engine) (s : Storage) : Engine × Storage :=
  let (cursors, s) := settleAll e.batch e.cursors s
  ({ e with cursors }, s)

end Engine

end SchemaRegistry
