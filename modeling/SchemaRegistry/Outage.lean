/-!
Calls that can be refused.  Whatever a registry depends on may be out of reach; which calls fail is
part of the state it runs in.
-/

namespace SchemaRegistry

inductive Call
  | logAppend
  | logFetch
  | logEndOffset
  | cacheRead
  | cacheWrite
  | backendRead
  | backendWrite
  | tokensAuthorize
  | tokensAddUser
  | tokensRefreshToken
  | tokensIsAdmin
  deriving DecidableEq, Repr

namespace Call

def name : Call → String
  | logAppend => "log.append"
  | logFetch => "log.fetch"
  | logEndOffset => "log.end_offset"
  | cacheRead => "cache.read"
  | cacheWrite => "cache.write"
  | backendRead => "backend.read"
  | backendWrite => "backend.write"
  | tokensAuthorize => "tokens.authorize"
  | tokensAddUser => "tokens.add_user"
  | tokensRefreshToken => "tokens.refresh_token"
  | tokensIsAdmin => "tokens.is_admin"

def all : List Call := [logAppend, logFetch, logEndOffset, cacheRead, cacheWrite, backendRead,
  backendWrite, tokensAuthorize, tokensAddUser, tokensRefreshToken, tokensIsAdmin]

def ofName? (s : String) : Option Call := all.find? (·.name = s)

end Call

abbrev Outages := List Call

namespace Outages

def refuse (o : Outages) (c : Call) : Bool := o.contains c

end Outages

end SchemaRegistry
