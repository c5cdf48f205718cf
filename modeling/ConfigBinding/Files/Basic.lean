import ConfigBinding.Files.Path
import ConfigBinding.Store.Dictionary

/-!
# Files

A tree of directories and files, and what can be done in it by path. The working directory, from
which relative paths lead on, lies somewhere in the tree, so `..` leads out of it.

* `Files.readText`, `Files.writeText`, `Files.makeDirectory`, `Files.makeDirectories`,
  `Files.isDirectory`, `Files.names`;
* `makeMissing`: makes directories from any operation that makes one.
-/

namespace ConfigBinding

inductive Content where
  | text (value : String)
  | binary
  deriving DecidableEq

inductive Node where
  | file (content : Content)
  | directory (entries : List (String × Node))

def Node.at? : List String → Node → Option Node
  | [], node => some node
  | _ :: _, .file _ => none
  | name :: rest, .directory entries => (entries.lookup name).bind (Node.at? rest)

/-- Puts something where names lead down to, making the directories on the way. -/
def Node.put (new : Node) : List String → Node → Node
  | [], _ => new
  | name :: rest, .directory entries =>
    .directory (Dictionary.update entries name (.directory []) (Node.put new rest))
  | _ :: _, .file content => .file content

structure Files where
  top : Node
  /-- The names that lead down to the working directory. -/
  working : List String

/-- Makes the first of some directories, each of which lies in the next, after those of the others
    that are missing. `make` makes one directory. -/
def makeMissing {m : Type → Type} [Monad m] (make : String → m (Except FileFault Unit))
    (isDirectory : String → m Bool) : List String → m (Except FileFault Unit)
  | [] => pure (.ok ())
  | path :: above => do
    let makeNew : m (Except FileFault Unit) := do
      match ← make path with
      | .error .alreadyExists =>
        if ← isDirectory path then return .ok () else return .error .alreadyExists
      | result => return result
    match ← makeNew with
    | .error .notFound =>
      match ← makeMissing make isDirectory above with
      | .ok () => makeNew
      | .error fault => return .error fault
    | result => return result

namespace Files

/-- A tree without files, but for the empty working directory. -/
def empty : Files := ⟨.directory [("work", .directory [])], ["work"]⟩

def workingDirectory (files : Files) : Node := (files.top.at? files.working).getD (.directory [])

/-- Follows parts of a path from where names lead down to. -/
def follow (files : Files) (names : List String) : List String → Except FileFault (List String)
  | [] => .ok names
  | part :: rest =>
    match files.top.at? names with
    | none => .error .notFound
    | some (.file _) => .error .notDirectory
    | some (.directory entries) =>
      if part = "." then follow files names rest
      else if part = ".." then follow files names.dropLast rest
      else if nameLimit < part.utf8ByteSize then .error .nameTooLong
      else if (entries.lookup part).isNone then .error .notFound
      else follow files (names ++ [part]) rest

/-- The names that lead down to where a route starts. -/
def start (files : Files) (route : Route) : List String :=
  if route.fromTop then [] else files.working

def node (files : Files) (path : String) : Except FileFault Node := do
  let route ← Route.ofPath path
  let names ← files.follow (files.start route) route.parts
  match files.top.at? names with
  | none => .error .notFound
  | some (.file content) => if route.endsInSlash then .error .notDirectory else .ok (.file content)
  | some directory => .ok directory

def exists? (files : Files) (path : String) : Bool := (files.node path).isOk

def isDirectory (files : Files) (path : String) : Bool :=
  match files.node path with
  | .ok (.directory _) => true
  | _ => false

def names (files : Files) (path : String) : Except FileFault (List String) :=
  match files.node path with
  | .error fault => .error fault
  | .ok (.file _) => .error .notDirectory
  | .ok (.directory entries) => .ok (entries.map (·.1))

def readText (files : Files) (path : String) : Except FileFault String :=
  match files.node path with
  | .error fault => .error fault
  | .ok (.directory _) => .error .isDirectory
  | .ok (.file .binary) => .error .notText
  | .ok (.file (.text value)) => .ok value

/-- The directory in which the last part of a route stands, and that part if it is a name and not
    dots or nothing. -/
def entry (files : Files) (route : Route) : Except FileFault (List String × Option String) :=
  match route.parts.getLast? with
  | none => .ok (files.start route, none)
  | some last => do
    let names ← files.follow (files.start route) route.parts.dropLast
    match files.top.at? names with
    | none => .error .notFound
    | some (.file _) => .error .notDirectory
    | some (.directory _) =>
      if last = "." || last = ".." then .ok (names, none) else .ok (names, some last)

def put (files : Files) (names : List String) (new : Node) : Files :=
  { files with top := Node.put new names files.top }

/-- Writes a file; its directory must be there. -/
def write (files : Files) (path : String) (content : Content) : Except FileFault Files := do
  let route ← Route.ofPath path
  let (above, name) ← files.entry route
  match name with
  | none => .error .isDirectory
  | some name =>
    if route.endsInSlash then .error .isDirectory
    else if nameLimit < name.utf8ByteSize then .error .nameTooLong
    else
      match files.top.at? (above ++ [name]) with
      | some (.directory _) => .error .isDirectory
      | _ => .ok (files.put (above ++ [name]) (.file content))

def writeText (files : Files) (path text : String) : Except FileFault Files :=
  files.write path (.text text)

/-- Makes a directory; the one above it must be there. -/
def makeDirectory (files : Files) (path : String) : Except FileFault Files := do
  let route ← Route.ofPath path
  let (above, name) ← files.entry route
  match name with
  | none => .error .alreadyExists
  | some name =>
    if nameLimit < name.utf8ByteSize then .error .nameTooLong
    else
      match files.top.at? (above ++ [name]) with
      | some _ => .error .alreadyExists
      | none => .ok (files.put (above ++ [name]) (.directory []))

/-- Does something to a tree that stays as it is where that fails. -/
def attempting (action : Files → Except FileFault Files) : StateM Files (Except FileFault Unit) :=
  fun files =>
    match action files with
    | .ok after => (.ok (), after)
    | .error fault => (.error fault, files)

/-- Makes a directory and those above it where they are missing. What was made stays when a later
    one cannot be made. -/
def makeDirectories (files : Files) (path : String) : Files × Except FileFault Unit :=
  let making : StateM Files (Except FileFault Unit) :=
    makeMissing (fun path => attempting (·.makeDirectory path))
      (fun path files => (files.isDirectory path, files)) (directoriesTo path)
  let (result, after) := making files
  (after, result)

end Files

end ConfigBinding
