namespace SchemaRegistry

inductive FileError
  | notFound
  | alreadyExists
  | notDirectory
  | isDirectory
  | tooManyOpen
  | fileTooLarge
  | nameTooLong
  | shortRead
  | nulInName
  | noTree
  deriving DecidableEq, Repr

def FileError.message : FileError → String
  | .notFound => "No such file or directory (os error 2)"
  | .alreadyExists => "File exists (os error 17)"
  | .notDirectory => "Not a directory (os error 20)"
  | .isDirectory => "Is a directory (os error 21)"
  | .tooManyOpen => "Too many open files (os error 24)"
  | .fileTooLarge => "File too large (os error 27)"
  | .nameTooLong => "File name too long (os error 36)"
  | .shortRead => "failed to fill whole buffer"
  | .nulInName => "file name contained an unexpected NUL byte"
  | .noTree => "failed to create whole tree"

end SchemaRegistry
