import SchemaRegistry.Disk.Error
import SchemaRegistry.Log.Error
import SchemaRegistry.Record

namespace SchemaRegistry

inductive StoreName
  | cache
  | backend
  deriving DecidableEq, Repr

inductive DatabaseFault
  | directory (cause : FileError)
  | file (cause : FileError)
  | locked
  deriving DecidableEq, Repr

def DatabaseFault.message : DatabaseFault → String
  | .directory cause => s!"io error: {cause.message}"
  | .file cause => s!"redb error: I/O error: {cause.message}"
  | .locked => "redb error: Database already open. Cannot acquire lock."

inductive StoreError
  | badKey (key : String)
  | badLevel (name : String)
  | badRow (cause : Json.Error)
  | down (store : StoreName)
  | unavailable (attempts : Nat) (last : DatabaseFault)
  deriving DecidableEq, Repr

def StoreError.message : StoreError → String
  | .badKey key => s!"corrupt stored row: bad schema key {Text.quoted key}"
  | .badLevel name => s!"corrupt stored row: {invalidLevel name}"
  | .badRow cause => s!"stored row codec error: {cause.message}"
  | .down .cache => "corrupt stored row: cache down"
  | .down .backend => "corrupt stored row: backend down"
  | .unavailable attempts last => s!"backend unavailable after {attempts} attempts: {last.message}"

inductive StorageError
  | log (cause : LogError)
  | store (cause : StoreError)
  deriving DecidableEq, Repr

def StorageError.message : StorageError → String
  | .log cause => cause.message
  | .store cause => cause.message

end SchemaRegistry
