import SchemaRegistry.Storage

/-!
Replay: the records of a stream are applied to a state one by one, in the order of their offsets.
One that cannot be decoded or applied is skipped for good.
-/

namespace SchemaRegistry

structure Replayer (σ : Type) where
  fetch (stream : String) (start max : Nat) : Action σ LogError (List Entry)
  change : Change → Action σ StoreError Unit
  bound : String → σ → Nat

structure Cursor where
  stream : String
  next : Nat
  deriving DecidableEq, Repr

structure Progress where
  applied : Nat
  skipped : Nat
  deriving DecidableEq, Repr

namespace Progress

def zero : Progress := ⟨0, 0⟩

def records (p : Progress) : Nat := p.applied + p.skipped

def add (p q : Progress) : Progress := ⟨p.applied + q.applied, p.skipped + q.skipped⟩

def count (p : Progress) (applied : Bool) : Progress :=
  if applied then { p with applied := p.applied + 1 } else { p with skipped := p.skipped + 1 }

end Progress

def Cursor.start (stream : String) : Cursor := ⟨stream, 0⟩

namespace Replayer

variable {σ : Type} (r : Replayer σ)

def applyEntry (s : σ) (e : Entry) : Bool × σ :=
  match Record.decode e.key e.value with
  | .error _ => (false, s)
  | .ok record =>
    match (r.change (record.change e.offset)).on s with
    | (.ok (), s) => (true, s)
    | (.error _, s) => (false, s)

def applyBatch : List Entry → Cursor → σ → Progress × Cursor × σ
  | [], c, s => (.zero, c, s)
  | e :: es, c, s =>
    let (applied, s) := r.applyEntry s e
    let (p, c, s) := applyBatch es { c with next := e.offset + 1 } s
    (p.count applied, c, s)

/-- Fetch one batch and apply it.  When the fetch fails nothing is changed. -/
def poll (c : Cursor) (max : Nat) : Action σ LogError (Progress × Cursor) := do
  let batch ← r.fetch c.stream c.next max
  .of fun s =>
    let (p, c, s) := r.applyBatch batch c s
    (.ok (p, c), s)

/-- Poll until nothing is left: how far it came, and what stopped it, if it was a failure. -/
def advance (max : Nat) : (fuel : Nat) → Cursor → σ → Progress × Cursor × Option LogError × σ
  | 0, c, s => (.zero, c, none, s)
  | fuel + 1, c, s =>
    match (r.poll c max).on s with
    | (.error e, s) => (.zero, c, some e, s)
    | (.ok (p, c), s) =>
      if p.records = 0 then (p, c, none, s)
      else
        let (q, c, e, s) := advance max fuel c s
        (p.add q, c, e, s)

/-- Poll from a cursor to the end of its stream, at least one record at a time. -/
def toEnd (max : Nat) (c : Cursor) (s : σ) : Progress × Cursor × Option LogError × σ :=
  r.advance (Nat.max max 1) (r.bound c.stream s + 1) c s

def replay (max : Nat) (stream : String) : Action σ LogError (Progress × Cursor) := .of fun s =>
  match r.toEnd max (.start stream) s with
  | (p, c, none, s) => (.ok (p, c), s)
  | (_, _, some e, s) => (.error e, s)

end Replayer

namespace Storage

def toCache : Replayer Storage := ⟨fetch, changeCache, fun stream s => s.bound stream⟩

def toBackend : Replayer Storage := ⟨fetch, changeBackend, fun stream s => s.bound stream⟩

def beside : Replayer (Storage × Cache) where
  fetch stream start max := (fetch stream start max).within Prod.fst fun s t => (s, t.2)
  change change := .change fun t => (t.1, t.2.apply change)
  bound stream t := t.1.bound stream

end Storage

end SchemaRegistry
