import SchemaRegistry.Text.Bytes
import SchemaRegistry.Text.Split

/-!
Paths as texts.  A path is taken apart at slashes; which of its parts exist is for the disk to say.
-/

namespace SchemaRegistry.Path

def isAbsolute (path : String) : Bool := path.toList.head? = some '/'

def parts (path : String) : List String := Text.split '/' path

/-- The parts that name something: no empty ones, and a dot only where a relative path starts. -/
def components (path : String) : List String :=
  let named := (parts path).filter (· ≠ "")
  match named with
  | [] => []
  | first :: rest =>
    let rest := rest.filter (· ≠ ".")
    if first = "." && isAbsolute path then rest else first :: rest

/-- The path without its last component; the root and the empty path have none. -/
def parent? (path : String) : Option String :=
  let cs := components path
  if cs.isEmpty then none
  else some ((if isAbsolute path then "/" else "") ++ "/".intercalate cs.dropLast)

def join (directory path : String) : String :=
  if isAbsolute path || directory = "" then path
  else if directory.toList.getLast? = some '/' then directory ++ path
  else directory ++ "/" ++ path

def withExtension? (path extension : String) : Option String := do
  let named := ((parts path).reverse.dropWhile fun p => p = "" || p = ".").reverse
  let name ← named.getLast?
  if name = ".." then none else some ("/".intercalate named ++ "." ++ extension)

def longest : Nat := 4095

def longestPart : Nat := 255

def partFits (part : String) : Bool := (utf8 part).length ≤ longestPart

end SchemaRegistry.Path
