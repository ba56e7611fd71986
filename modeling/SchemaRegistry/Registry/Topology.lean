namespace SchemaRegistry

inductive Topology
  | logCache
  | logBackendCache
  deriving DecidableEq, Repr

def Topology.name : Topology → String
  | .logCache => "log+cache"
  | .logBackendCache => "log+backend+cache"

end SchemaRegistry
