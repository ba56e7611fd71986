import SchemaRegistry.Disk.Error
import SchemaRegistry.Log.Frame

namespace SchemaRegistry

inductive LogFault
  | file (cause : FileError)
  | inconsistent
  | down
  deriving DecidableEq, Repr

def LogFault.message : LogFault → String
  | .file cause => cause.message
  | .inconsistent => "segment left inconsistent by a failed append, reopen the log"
  | .down => "broker down"

inductive Corruption
  | frame (cause : Frame.Fault)
  | offset (found : Nat)
  deriving DecidableEq, Repr

def Corruption.message : Corruption → String
  | .frame cause => cause.message
  | .offset found => s!"found offset {found}"

inductive EndpointError
  | invalid (endpoint : String)
  | directory (cause : FileError)
  deriving DecidableEq, Repr

inductive LogError
  | io (stream : String) (cause : LogFault)
  | corrupt (stream : String) (offset : Nat) (cause : Corruption)
  | tooLarge (stream : String) (size : Nat)
  | endpoint (cause : EndpointError)
  | noEndpoint (tried : List (String × EndpointError))
  deriving DecidableEq, Repr

def ioMessage (stream : String) (cause : String) : String :=
  s!"log I/O error on stream '{stream}': {cause}"

def EndpointError.message : EndpointError → String
  | .invalid endpoint => s!"invalid log endpoint '{endpoint}'"
  | .directory cause => ioMessage "" cause.message

def LogError.message : LogError → String
  | .io stream cause => ioMessage stream cause.message
  | .corrupt stream offset cause =>
    s!"corrupt log record in stream '{stream}' at offset {offset}: {cause.message}"
  | .tooLarge stream size => s!"record too large for stream '{stream}': {size} bytes"
  | .endpoint cause => cause.message
  | .noEndpoint tried =>
    "no log endpoint could be opened: " ++
      "; ".intercalate (tried.map fun t => s!"{t.1}: {t.2.message}")

end SchemaRegistry
