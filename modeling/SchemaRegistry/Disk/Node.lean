import SchemaRegistry.Text.Bytes

namespace SchemaRegistry

inductive Node
  | file (content : Bytes)
  | directory
  deriving DecidableEq, Repr

end SchemaRegistry
