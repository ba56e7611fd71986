import SchemaRegistry.Url.Percent

/-!
URLs.  The path is either opaque or a list of segments; a segment can be added to a list, and is
then one segment whatever characters it has.
-/

namespace SchemaRegistry

inductive UrlPath
  | opaquePath (text : String)
  | segments (list : List String)
  deriving DecidableEq, Repr

structure UrlUser where
  name : String
  /-- Without a password there is no colon either. -/
  password : Option String
  deriving DecidableEq, Repr

namespace UrlUser

def nobody : UrlUser := ⟨"", none⟩

def render (u : UrlUser) : String :=
  if u = nobody then "" else u.name ++ (u.password.map (":" ++ ·)).getD "" ++ "@"

/-- Whether name or password says something; a name that is no text says nothing, and then the
password is not looked at. -/
def isReadable (u : UrlUser) : Bool :=
  match Percent.decode? u.name with
  | none => false
  | some name => name ≠ "" || (u.password.bind Percent.decode?).isSome

end UrlUser

inductive UrlStart
  /-- Two slashes, and whose machine it is; a host that is missing is an empty one. -/
  | authority (user : UrlUser) (host : Option String) (port : Option Nat)
  /-- Nothing, or a segment of one dot that keeps slashes behind it from being taken for others. -/
  | bare (dotted : Bool)
  deriving DecidableEq, Repr

structure Url where
  scheme : String
  start : UrlStart
  path : UrlPath
  query : Option String
  fragment : Option String
  deriving DecidableEq, Repr

namespace UrlStart

def host : UrlStart → Option String
  | .authority _ host _ => host
  | .bare _ => none

def render : UrlStart → String
  | .authority user host port =>
    "//" ++ user.render ++ host.getD "" ++ (match port with
      | some port => s!":{port}"
      | none => "")
  | .bare dotted => if dotted then "/." else ""

/-- The same without name and password, which a request carries elsewhere if they can be read. -/
def withoutUser : UrlStart → UrlStart
  | .authority user host port => .authority (if user.isReadable then .nobody else user) host port
  | .bare dotted => .bare dotted

end UrlStart

namespace Url

/-- The schemes whose URLs always have a host and a path. -/
def isSpecialScheme (scheme : String) : Bool :=
  ["http", "https", "ws", "wss", "ftp", "file"].contains scheme

def isSpecial (u : Url) : Bool := isSpecialScheme u.scheme

def host (u : Url) : Option String := u.start.host

def withoutUser (u : Url) : Url := { u with start := u.start.withoutUser }

def segmentsText (list : List String) : String := String.join (list.map ("/" ++ ·))

def pathText (u : Url) : String :=
  match u.path with
  | .opaquePath text => text
  | .segments list => segmentsText list

def render (u : Url) : String :=
  u.scheme ++ ":" ++ u.start.render ++ u.pathText ++
    (match u.query with
      | some query => "?" ++ query
      | none => "") ++
    (match u.fragment with
      | some fragment => "#" ++ fragment
      | none => "")

def isIgnored (c : Char) : Bool := c = '\t' || c = '\n' || c = '\r'

/-! Paths that grow.  Dots lead to the same place or to the one above, but not above a drive, which
is a letter and a colon or a bar. -/

def startsLikeDrive (segment : String) : Bool :=
  match segment.toList with
  | letter :: sign :: rest =>
    letter.isAlpha && (sign = ':' || sign = '|') && (rest.isEmpty || rest.head? = some '\\')
  | _ => false

def above (path : List String) : List String :=
  if path.getLast?.any startsLikeDrive then path else path.dropLast

def drive? (segment : String) : Option String :=
  match segment.toList with
  | [letter, sign] =>
    if letter.isAlpha && (sign = ':' || sign = '|') then some (String.ofList [letter, ':'])
    else none
  | _ => none

def withoutLeading (path : List String) : List String :=
  match path.dropWhile (· = "") with
  | [] => [""]
  | rest => rest

def addSegment (scheme : String) (done : List String) (segment : String) : List String :=
  match if scheme = "file" && done.isEmpty then drive? segment else none with
  | some drive => [drive]
  | none => done ++ [segment]

/-- A segment in its encoded form; tabs and line ends are dropped. -/
def encodeSegment (special : Bool) (segment : String) : String :=
  Percent.encode (if special then .specialSegment else .segment)
    (String.ofList (segment.toList.filter (!isIgnored ·)))

/-- Push a segment onto a path; the root's only, empty segment gives way.  Dots are skipped; what is
left of a segment once it is encoded may be dots still, and then leads to the same place or to the
one above. -/
def pushSegment (scheme : String) (path : List String) (segment : String) : List String :=
  if segment = "." || segment = ".." then path
  else
    let done := if path = [""] then [] else path
    let encoded := encodeSegment (isSpecialScheme scheme) segment
    let path :=
      if encoded = "." then done ++ [""]
      else if encoded = ".." then above done ++ [""]
      else addSegment scheme done encoded
    if scheme = "file" then withoutLeading path else path

def dropEmpty (path : List String) : List String :=
  if 1 < path.length && path.getLast? = some "" then path.dropLast else path

end Url

end SchemaRegistry
