import SchemaRegistry.Log.Error
import SchemaRegistry.Text.Blank

namespace SchemaRegistry

inductive Endpoint
  | memory
  | directory (path : String)
  deriving DecidableEq, Repr

namespace Endpoint

/-- What follows the scheme of a `file` address; other texts stay as they are. -/
def withoutScheme (s : List Char) : List Char :=
  if "file://".toList.isPrefixOf s then s.drop 7 else s

def hasScheme : List Char → Bool
  | [] => false
  | c :: cs => "://".toList.isPrefixOf (c :: cs) || hasScheme cs

def parse (text : String) : Except EndpointError Endpoint :=
  let text := Text.trim text
  if text = "memory" || text = "memory://" then .ok .memory
  else
    let path := withoutScheme text.toList
    if path.isEmpty || hasScheme path then .error (.invalid text)
    else .ok (.directory (String.ofList path))

end Endpoint

end SchemaRegistry
