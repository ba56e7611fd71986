import SchemaRegistry.Json.Typed
import SchemaRegistry.Json.Writer

namespace SchemaRegistry

structure Row where
  id : Int
  text : String
  deriving DecidableEq, Repr, Inhabited

namespace Row

open Json in
def layout : Layout Row where
  name := "StoredSchema"
  fields := [
    .of "id" (readInteger .i64) fun a r => { r with id := a },
    .of "schema" (readString "a string") fun a r => { r with text := a }]
  start := default
  complete := true

def encode (r : Row) : Bytes :=
  Json.writeObject [("id", Json.writeInteger r.id), ("schema", Json.writeString r.text)]

def decode (bs : Bytes) : Except Json.Error Row := Json.readAll layout.read bs

end Row

end SchemaRegistry
