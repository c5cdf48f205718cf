/-!
# Paths

A path is a text of names between slashes. One that starts with a slash leads down from the top of
a tree of files, any other from the working directory. `.` is the directory it stands in and `..`
the one above; doubled slashes count as one, and a slash at the end asks for a directory.

* `Route.ofPath`: a path taken apart, or why no file can have it;
* `above?`, `directoriesTo`: the paths of the directories above the end of a path;
* `FileFault`: why an operation on files failed.
-/

namespace ConfigBinding

inductive FileFault where
  | notFound
  | alreadyExists
  | notDirectory
  | isDirectory
  /-- A path or a name in it is longer than any that a file can have. -/
  | nameTooLong
  /-- A path has the null character in it, which no file can have in its name. -/
  | nullInName
  /-- The file holds bytes that are not text. -/
  | notText
  /-- Something only a real file system reports. -/
  | other (message : String)
  deriving DecidableEq

def FileFault.message : FileFault → String
  | .notFound => "No such file or directory (os error 2)"
  | .alreadyExists => "File exists (os error 17)"
  | .notDirectory => "Not a directory (os error 20)"
  | .isDirectory => "Is a directory (os error 21)"
  | .nameTooLong => "File name too long (os error 36)"
  | .nullInName => "file name contained an unexpected NUL byte"
  | .notText => "stream did not contain valid UTF-8"
  | .other message => message

/-- The number of bytes that a name may have. -/
def nameLimit : Nat := 255

/-- The number of bytes that a path may have. -/
def pathLimit : Nat := 4095

def isAbsolute (path : String) : Bool := path.startsWith "/"

structure Route where
  fromTop : Bool
  /-- What stands between slashes, `.` and `..` included. -/
  parts : List String
  endsInSlash : Bool

def Route.ofPath (path : String) : Except FileFault Route :=
  if path.toList.contains '\x00' then .error .nullInName
  else if path = "" then .error .notFound
  else if pathLimit < path.utf8ByteSize then .error .nameTooLong
  else
    .ok
      { fromTop := isAbsolute path
        parts := (path.splitOn "/").filter fun part => part ≠ ""
        endsInSlash := path.endsWith "/" }

/-- The names along a path; dots and doubled slashes add none. -/
def pathNames (path : String) : List String :=
  (path.splitOn "/").filter fun part => part ≠ "" && part ≠ "."

def pathAlong (fromTop : Bool) (names : List String) : String :=
  (if fromTop then "/" else "") ++ String.intercalate "/" names

/-- The path of the directory that the last name of a path lies in; without a name there is none.
    The working directory is the empty path. -/
def above? (path : String) : Option String :=
  match pathNames path with
  | [] => none
  | names => some (pathAlong (isAbsolute path) names.dropLast)

/-- The paths along all of some names, given last first, along all but the last, and so on down to
    the path along the first. -/
def pathsUp (fromTop : Bool) : List String → List String
  | [] => []
  | last :: rest => pathAlong fromTop (last :: rest).reverse :: pathsUp fromTop rest

/-- A path and those of the directories above its last name, the nearest first. -/
def directoriesTo (path : String) : List String :=
  if path = "" then [] else path :: pathsUp (isAbsolute path) (pathNames path).reverse.tail

def joinPath (directory name : String) : String :=
  if directory = "" || directory.endsWith "/" then directory ++ name else directory ++ "/" ++ name

/-- Whether a path means the directory that relative paths start from. -/
def isStart (path : String) : Bool :=
  path ≠ "" && !isAbsolute path && (pathNames path).isEmpty

end ConfigBinding
