/-!
# Paths

Paths are text with `/` between their parts. Joining and taking the directory of a path change
nothing else about the text: in particular `..` stays as it is.
-/

namespace R3000A.Text

/-- A path, last character first, without separators and `.` parts at its end. The root and a path
that is only `.` are left. -/
def trimPathEnd : List Char → List Char
  | ['/'] => ['/']
  | '/' :: cs => trimPathEnd cs
  | '.' :: '/' :: cs => trimPathEnd ('/' :: cs)
  | cs => cs

/-- The directory that holds the last part of a path, or the empty path if the path has one part or
none. -/
def directoryOf (path : String) : String :=
  let parts := trimPathEnd path.toList.reverse
  if parts = ['/'] then ""
  else String.ofList (trimPathEnd (parts.dropWhile (· ≠ '/'))).reverse

/-- A path seen from a directory. An absolute path is the same from everywhere. -/
def joinPath (base path : String) : String :=
  if path.startsWith "/" then path
  else if base.isEmpty || base.endsWith "/" then base ++ path
  else base ++ "/" ++ path

end R3000A.Text
