import SchemaRegistry.Text.Quoted
import SchemaRegistry.Url.Error

namespace SchemaRegistry

inductive SecretCall
  | read
  | write
  deriving DecidableEq, Repr

def SecretCall.name : SecretCall → String
  | .read => "read"
  | .write => "write"

inductive Unavailability
  | down
  /-- The request cannot be formed: its token is no header value, or its URL cannot be asked. -/
  | unsendable (url : Option String)
  | unreachable (url : String)
  | refused (call : SecretCall) (status body : String)
  deriving DecidableEq, Repr

def Unavailability.message : Unavailability → String
  | .down => "vault down"
  | .unsendable none => "builder error"
  | .unsendable (some url) => s!"builder error for url ({url})"
  | .unreachable url => s!"error sending request for url ({url})"
  | .refused call status body => s!"Vault {call.name} returned status {status}: {body}"

inductive VaultFault
  | emptyToken
  | invalidAddress (address : String) (cause : UrlError)
  | pathless (address : String)
  deriving DecidableEq, Repr

def VaultFault.message : VaultFault → String
  | .emptyToken => "Vault token is empty"
  | .invalidAddress address cause => s!"invalid Vault address {address}: {cause.message}"
  | .pathless address => s!"invalid Vault address {address}"

inductive AuthError
  | userNotFound (name : String)
  | invalidUserName (name : String)
  | timeout
  | unavailable (cause : Unavailability)
  | invalidResponse
  | configuration (cause : VaultFault)
  deriving DecidableEq, Repr

def AuthError.message : AuthError → String
  | .userNotFound name => s!"user not found: {name}"
  | .invalidUserName name => s!"invalid user name: {Text.quoted name}"
  | .timeout => "secret service request timed out"
  | .unavailable cause => s!"secret service unavailable: {cause.message}"
  | .invalidResponse => "unexpected secret service response: error decoding response body"
  | .configuration cause => s!"configuration error: {cause.message}"

end SchemaRegistry
