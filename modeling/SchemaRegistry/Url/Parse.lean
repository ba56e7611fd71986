import SchemaRegistry.Text.Split
import SchemaRegistry.Url.Basic
import SchemaRegistry.Url.Host

/-!
Reading URLs that stand for themselves, without a base.  Blanks around them and tabs and line ends
in them do not count; in the URLs of special schemes a backslash is a slash.
-/

namespace SchemaRegistry.Url

def defaultPort? : String → Option Nat
  | "http" => some 80
  | "https" => some 443
  | "ws" => some 80
  | "wss" => some 443
  | "ftp" => some 21
  | _ => none

def isSchemeChar (c : Char) : Bool := c.isAlphanum || c = '+' || c = '-' || c = '.'

def scheme? (s : List Char) : Option (String × List Char) :=
  let name := s.takeWhile isSchemeChar
  match name, s.dropWhile isSchemeChar with
  | c :: _, ':' :: rest =>
    if c.isAlpha then some (String.ofList (name.map Char.toLower), rest) else none
  | _, _ => none

def isSlash (special : Bool) (c : Char) : Bool := c = '/' || (special && c = '\\')

def endsAuthority (special : Bool) (c : Char) : Bool := isSlash special c || c = '?' || c = '#'

def atLast (s : List Char) : Option (List Char × List Char) :=
  if s.contains '@' then
    let behind := (s.reverse.takeWhile (· ≠ '@')).reverse
    some (s.take (s.length - behind.length - 1), behind)
  else none

def user (s : List Char) : UrlUser :=
  let encode (cs : List Char) : String := Percent.encode .userInfo (String.ofList cs)
  let password := (s.dropWhile (· ≠ ':')).tail
  ⟨encode (s.takeWhile (· ≠ ':')), if password.isEmpty then none else some (encode password)⟩

def hostLength (special : Bool) : (bracketed : Bool) → List Char → Nat
  | _, [] => 0
  | bracketed, c :: cs =>
    if (c = ':' && !bracketed) || endsAuthority special c then 0
    else 1 + hostLength special (c = '[' || (bracketed && c ≠ ']')) cs

/-- Whether a character ends a port; a backslash does so in every scheme. -/
def endsPort (c : Char) : Bool := c = '/' || c = '\\' || c = '?' || c = '#'

def port? (scheme : String) (s : List Char) : Except UrlError (Option Nat) :=
  if !s.all Char.isDigit then .error .invalidPort
  else
    let port := s.foldl (fun n c => n * 10 + (c.toNat - 48)) 0
    if 65535 < port then .error .invalidPort
    else if s.isEmpty || some port = defaultPort? scheme then .ok none
    else .ok (some port)

def hostAndPort (scheme : String) (s : List Char) :
    Except UrlError (Option String × Option Nat × List Char) := do
  let special := isSpecialScheme scheme
  let length := hostLength special false s
  let name := String.ofList (s.take length)
  if name = "" && special then throw .emptyHost
  let host ← if special then Host.special name else Host.plain name
  let host := if host = "" then none else some host
  match s.drop length with
  | ':' :: rest =>
    if host.isNone then throw .emptyHost
    let port ← port? scheme (rest.takeWhile (!endsPort ·))
    return (host, port, rest.dropWhile (!endsPort ·))
  | rest => return (host, none, rest)

def authority (scheme : String) (s : List Char) : Except UrlError (UrlStart × List Char) := do
  let special := isSpecialScheme scheme
  let region := s.takeWhile (!endsAuthority special ·)
  match atLast region with
  | none =>
    let (host, port, rest) ← hostAndPort scheme s
    return (.authority .nobody host port, rest)
  | some (before, behind) =>
    let rest := behind ++ s.drop region.length
    if before.isEmpty && rest.head?.any (endsAuthority special) then throw .emptyHost
    let (host, port, rest) ← hostAndPort scheme rest
    let user := user before
    if host.isNone && user ≠ .nobody then throw .emptyHost
    return (.authority user host port, rest)

def isSingleDot (s : String) : Bool := ["." , "%2e", "%2E"].contains s

def isDoubleDot (s : String) : Bool :=
  ["..", ".%2e", ".%2E", "%2e.", "%2E.", "%2e%2e", "%2e%2E", "%2E%2e", "%2E%2E"].contains s

/-- Resolve dots: one dot stays, two go up, and at the end both leave an empty segment. -/
def resolve (scheme : String) : (done : List String) → List String → List String
  | done, [] => done
  | done, [last] =>
    if isDoubleDot last then above done ++ [""]
    else if isSingleDot last then done ++ [""]
    else addSegment scheme done last
  | done, s :: rest =>
    if isDoubleDot s then resolve scheme (above done) rest
    else if isSingleDot s then resolve scheme done rest
    else resolve scheme (addSegment scheme done s) rest

def pieces (special : Bool) (s : List Char) : List String :=
  let slashed := s.map fun c => if isSlash special c then '/' else c
  (Text.pieces '/' slashed).map fun p => Percent.encode .path (String.ofList p)

def segments (scheme : String) (s : List Char) : List String :=
  resolve scheme [] (pieces (isSpecialScheme scheme) s)

def withoutSlash (special : Bool) : List Char → List Char
  | c :: cs => if isSlash special c then cs else c :: cs
  | [] => []

def splitTail (s : List Char) : List Char × Option (List Char) × Option (List Char) :=
  let before := s.takeWhile (· ≠ '#')
  let fragment := (s.dropWhile (· ≠ '#')).tail?
  (before.takeWhile (· ≠ '?'), (before.dropWhile (· ≠ '?')).tail?, fragment)

def finish (scheme : String) (start : List Char → UrlStart × UrlPath) (s : List Char) : Url :=
  let (p, query, fragment) := splitTail s
  let reserved := if isSpecialScheme scheme then Percent.Reserved.specialQuery else .query
  let (start, path) := start p
  { scheme, start, path
    query := query.map fun q => Percent.encode reserved (String.ofList q)
    fragment := fragment.map fun f => Percent.encode .fragment (String.ofList f) }

def pathBehind (scheme : String) (p : List Char) : UrlPath :=
  let special := isSpecialScheme scheme
  if p.isEmpty && !special then .segments []
  else .segments (segments scheme (withoutSlash special p))

def behindSlashes (scheme : String) (s : List Char) : Except UrlError Url := do
  let (start, rest) ← authority scheme s
  return finish scheme (fun p => (start, pathBehind scheme p)) rest

def rooted (scheme : String) (s : List Char) : Url :=
  finish scheme (fun p =>
    let list := segments scheme (p.drop 1)
    (.bare (1 < list.length && list.head? = some ""), .segments list)) s

/-! Files.  Their URLs have a host only behind two slashes, and this machine is none.  A path that
starts with a drive has no host either. -/

def localFile (s : List Char) : Url :=
  finish "file" (fun p =>
    (.authority .nobody none none, .segments (withoutLeading (segments "file" p)))) s

/-- A file on another machine, unless its path starts with a drive. -/
def remoteFile (host : String) (s : List Char) : Url :=
  finish "file" (fun p =>
    let list := segments "file" (withoutSlash true p)
    let onDrive := (list.head?.bind drive?).isSome
    (.authority .nobody (if onDrive then none else some host) none,
      .segments (withoutLeading list))) s

def file : List Char → Except UrlError Url
  | [] => .ok (localFile [])
  | a :: s =>
    if !isSlash true a then .ok (localFile (a :: s))
    else match s with
      | [] => .ok (localFile [])
      | b :: s =>
        if !isSlash true b then .ok (localFile (b :: s))
        else
          let name := s.takeWhile (!endsAuthority true ·)
          if name.isEmpty || (drive? (String.ofList name)).isSome then .ok (localFile s)
          else do
            let host ← Host.special (String.ofList name)
            let s := s.drop name.length
            return if host = "localhost" then localFile s else remoteFile host s

def isBlankAround (c : Char) : Bool := c.toNat ≤ 32

def parse (text : String) : Except UrlError Url :=
  let trimmed := ((text.toList.dropWhile isBlankAround).reverse.dropWhile isBlankAround).reverse
  let s := trimmed.filter (!isIgnored ·)
  match scheme? s with
  | none => .error .relativeWithoutBase
  | some (scheme, rest) =>
    if scheme = "file" then file rest
    else if isSpecialScheme scheme then behindSlashes scheme (rest.dropWhile (isSlash true))
    else match rest with
      | '/' :: '/' :: rest => behindSlashes scheme rest
      | '/' :: _ => .ok (rooted scheme rest)
      | _ => .ok (finish scheme
          (fun p => (.bare false, .opaquePath (Percent.encode [] (String.ofList p)))) rest)

end SchemaRegistry.Url
