import SchemaRegistry.Action
import SchemaRegistry.Log.Basic
import SchemaRegistry.Outage
import SchemaRegistry.Store.Backend

/-!
The storage of a registry: a log, a cache and a backend, of which the cache alone is always there.
Writes are appended to the log and then put into the backend; the cache only learns of them when the
log is replayed.  Reads ask the cache first.
-/

namespace SchemaRegistry

structure Storage where
  log : Option Log
  cache : Cache
  backend : Option Backend
  outages : Outages

namespace Storage

def cacheView (s : Storage) : View :=
  if s.outages.refuse .cacheRead then .failing (.down .cache) else s.cache.view

def readable (s : Storage) (b : Backend) : View :=
  if s.outages.refuse .backendRead then .failing (.down .backend) else b.view

def view (s : Storage) : View :=
  match s.backend with
  | none => s.cacheView
  | some b => s.cacheView.through (s.readable b)

def changeCache (change : Change) : Action Storage StoreError Unit := .of fun s =>
  if s.outages.refuse .cacheWrite then (.error (.down .cache), s)
  else (.ok (), { s with cache := s.cache.apply change })

/-- Without a backend there is nothing to do. -/
def changeBackend (change : Change) : Action Storage StoreError Unit := .of fun s =>
  match s.backend with
  | none => (.ok (), s)
  | some b =>
    if s.outages.refuse .backendWrite then (.error (.down .backend), s)
    else match b.apply change with
      | .ok b => (.ok (), { s with backend := some b })
      | .error e => (.error e, s)

def appendEntry (stream key : String) (value : Bytes) : Action Storage LogError (Option Nat) :=
  .of fun s =>
    match s.log with
    | none => (.ok none, s)
    | some l =>
      if s.outages.refuse .logAppend then (.error (.io stream .down), s)
      else
        let (r, l) := l.append stream key value
        (r.map some, { s with log := some l })

def fetch (stream : String) (start max : Nat) : Action Storage LogError (List Entry) := .of fun s =>
  match s.log with
  | none => (.ok [], s)
  | some l =>
    if s.outages.refuse .logFetch then (.error (.io stream .down), s)
    else
      let (r, l) := l.fetch stream start max
      (r, { s with log := some l })

def endOffset (stream : String) : Action Storage LogError Nat := .of fun s =>
  match s.log with
  | none => (.ok 0, s)
  | some l =>
    if s.outages.refuse .logEndOffset then (.error (.io stream .down), s)
    else
      let (r, l) := l.endOffset stream
      (r, { s with log := some l })

def bound (s : Storage) (stream : String) : Nat :=
  match s.log with
  | none => 0
  | some l => l.bound stream

/-! Writes.  One that the log refuses changes nothing; one that the backend refuses stays in the
log. -/

/-- Append a record to its stream; without a log it is dropped. -/
def publish (r : Record) : Action Storage StorageError (Option Nat) :=
  (appendEntry r.stream r.key r.value).mapError .log

/-- The id of what has been published: without an offset it is zero, which no logged schema has. -/
def idOf : Option Nat → Int
  | some offset => Schema.idAt offset
  | none => 0

def storeSchema (tenant subject text : String) : Action Storage StorageError Int := do
  let id := idOf (← publish (.schema tenant subject text))
  (changeBackend (.schema tenant subject id text)).mapError .store
  return id

def setGlobalLevel (tenant : String) (level : Level) : Action Storage StorageError Unit := do
  let _ ← publish (.globalConfig tenant level)
  (changeBackend (.globalLevel tenant level)).mapError .store

def setSubjectLevel (tenant subject : String) (level : Level) :
    Action Storage StorageError Unit := do
  let _ ← publish (.subjectConfig tenant subject level)
  (changeBackend (.subjectLevel tenant subject level)).mapError .store

/-- Users are published only: no backend keeps them. -/
def publishUser (user : User) : Action Storage StorageError Unit := do
  let _ ← publish (.createUser user.name user.token user.admin)

end Storage

end SchemaRegistry
