/-!
# Files

What a program that reads files has to know about them: the bytes of a file, or why there are none.
`FileTree` is a directory held in memory, in which paths are looked up part by part. Nothing is
known of what stands around the directory but that it stands in others.
-/

namespace R3000A

/-- Why a file cannot be read. -/
inductive FileError where
  | notFound
  | notDirectory
  | isDirectory
  | nameTooLong
  | permissionDenied
  /-- The path holds a NUL character. -/
  | badName
  | other (message : String)
  deriving DecidableEq, Repr

def FileError.message : FileError → String
  | notFound => "No such file or directory (os error 2)"
  | notDirectory => "Not a directory (os error 20)"
  | isDirectory => "Is a directory (os error 21)"
  | nameTooLong => "File name too long (os error 36)"
  | permissionDenied => "Permission denied (os error 13)"
  | badName => "file name contained an unexpected NUL byte"
  | other message => message

/-- A directory: its files under their paths, given part by part, the newest first. -/
structure FileTree where
  files : List (List String × List UInt8) := []
  deriving DecidableEq, Repr, Inhabited

namespace FileTree

/-- Whether a part of a path leads nowhere. -/
def isIdle (part : String) : Bool := part = "" || part = "."

def add (t : FileTree) (path : String) (bytes : List UInt8) : FileTree :=
  ⟨((path.splitOn "/").filter (!isIdle ·), bytes) :: t.files⟩

def isDirectory (t : FileTree) (path : List String) : Bool :=
  path.isEmpty || t.files.any fun (name, _) => path.isPrefixOf name && path.length < name.length

/-- The bytes of the file to which parts of a path lead from `here`, or from outside of the
directory. -/
def walk (t : FileTree) : (here : Option (List String)) → List String → Except FileError (List UInt8)
  | _, [] => .error .isDirectory
  | here, part :: rest =>
    if isIdle part then t.walk here rest
    else if 255 < part.utf8ByteSize then .error .nameTooLong
    else
      match here with
      | none => if part = ".." then t.walk none rest else .error .notFound
      | some path =>
        if part = ".." then t.walk (if path.isEmpty then none else some path.dropLast) rest
        else if t.isDirectory (path ++ [part]) then t.walk (some (path ++ [part])) rest
        else
          match t.files.lookup (path ++ [part]) with
          | none => .error .notFound
          | some bytes => if rest.isEmpty then .ok bytes else .error .notDirectory

def read (t : FileTree) (path : String) : Except FileError (List UInt8) :=
  if path.contains '\x00' then .error .badName
  else if path.isEmpty then .error .notFound
  else if 4095 < path.utf8ByteSize then .error .nameTooLong
  else t.walk (if path.startsWith "/" then none else some []) (path.splitOn "/")

end FileTree

end R3000A
