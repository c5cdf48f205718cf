import ConfigBinding.Disk
import ConfigBinding.Glob.Pattern

/-!
# Searching by patterns

The files and directories that a pattern matches (`search`). The parts of the pattern between
slashes are matched from the top down: a part without wildcards is looked up, any other is held
against the names in the directory, in order. What `**` matches comes before what is inside it.
-/

namespace ConfigBinding.Glob

inductive SearchError where
  | pattern (error : PatternError)
  | unreadable (path : String) (fault : FileFault)

def SearchError.message : SearchError → String
  | .pattern error => error.message
  | .unreadable path fault =>
    "attempting to read `" ++ path ++ "` resulted in an error: " ++ fault.message

abbrev Found := Except SearchError (List String)

/-- A part of a pattern between slashes. -/
abbrev Part := List Piece

/-- The only name that a part without wildcards matches. -/
def Part.name? (part : Part) : Option String :=
  (part.mapM fun (piece : Piece) =>
    match piece with
    | .char c => some c
    | _ => none).map String.ofList

/-- Whether a part is `**`. -/
def Part.isRecursive (part : Part) : Bool := part.contains .anyDirectories

/-- The parts of a pattern. A slash at the end adds none. -/
def Part.readAll (pattern : String) : Except PatternError (List Part) :=
  let pieces := pattern.splitOn "/"
  let pieces := if pieces.getLast? = some "" then pieces.dropLast else pieces
  pieces.mapM Piece.readAll

/-- The path of a name in a directory, without the needless mention of the start. -/
def pathIn (directory name : String) : String :=
  if isStart directory then name else joinPath directory name

section

variable {m : Type → Type} [Monad m]

def inEach {α : Type} (find : α → m Found) : List α → m Found
  | [] => pure (.ok [])
  | place :: rest => do
    match ← find place with
    | .error e => return .error e
    | .ok first =>
      match ← inEach find rest with
      | .error e => return .error e
      | .ok others => return .ok (first ++ others)

/-- A path that the last part of a pattern matches, unless it has to be a directory and is not. -/
def found (disk : Disk m) (directoriesOnly : Bool) (path : String) : m Found := do
  if directoriesOnly && !(← disk.isDirectory path) then return .ok [] else return .ok [path]

/-- Holds the parts of a pattern against something in a directory. `below` goes on inside it. -/
def match? (disk : Disk m) (directoriesOnly : Bool) (below : List Part → String → m Found)
    (parts : List Part) (path name : String) : m Found :=
  match parts with
  | [] => pure (.ok [])
  | part :: rest =>
    if !Piece.matchAll part name.toList then pure (.ok [])
    else if rest.isEmpty then found disk directoriesOnly path
    else below rest path

/-- Holds the parts of a pattern, of which the first may be `**`, against something in a directory.
    -/
def visit (disk : Disk m) (directoriesOnly : Bool) (below : List Part → String → m Found)
    (parts : List Part) (path name : String) : m Found := do
  let recursive := parts.takeWhile Part.isRecursive
  let rest := parts.dropWhile Part.isRecursive
  match recursive with
  | [] => match? disk directoriesOnly below rest path name
  | part :: _ =>
    let isDirectory ← disk.isDirectory path
    let here ←
      if rest.isEmpty then pure (.ok (if isDirectory then [path] else []))
      else match? disk directoriesOnly below rest path name
    let inside ← if isDirectory then below (part :: rest) path else pure (.ok [])
    return do return (← here) ++ (← inside)

/-- Finds what parts of a pattern match inside a directory. `depth` bounds how often it goes on to a
    later part or a deeper directory. -/
def below (disk : Disk m) (directoriesOnly : Bool) : Nat → List Part → String → m Found
  | 0, _, _ => pure (.ok [])
  | _ + 1, [], _ => pure (.ok [])
  | depth + 1, part :: rest, path => do
    let goOn (next : String) : m Found :=
      if rest.isEmpty then found disk directoriesOnly next
      else below disk directoriesOnly depth rest next
    let isDirectory ← disk.isDirectory path
    match Part.name? part with
    | some name =>
      let next := pathIn path name
      let isThere ←
        if name = "." || name = ".." then pure isDirectory else disk.exists? next
      if isThere then goOn next else return .ok []
    | none =>
      if !isDirectory then return .ok []
      else
        match ← disk.names path with
        | .error fault => return .error (.unreadable path fault)
        | .ok names =>
          let special :=
            if part.head? = some (.char '.') then
              ["..", "."].filter fun name => Piece.matchAll part name.toList
            else []
          let above ← inEach (fun name => goOn (joinPath path name)) special
          let ordered := names.mergeSort fun first second => !decide (second < first)
          let inside ←
            inEach
              (fun name =>
                visit disk directoriesOnly (below disk directoriesOnly depth) (part :: rest)
                  (pathIn path name) name)
              ordered
          return do return (← above) ++ (← inside)

/-- No path that can be opened has more parts than this. -/
def depthLimit : Nat := 4096

def search (disk : Disk m) (pattern : String) : m Found :=
  match Piece.readAll pattern with
  | .error e => pure (.error (.pattern e))
  | .ok _ =>
    let start := if isAbsolute pattern then "/" else "."
    let relative := if isAbsolute pattern then (pattern.drop 1).toString else pattern
    match Part.readAll relative with
    | .error e => pure (.error (.pattern e))
    | .ok parts =>
      below disk (pattern.endsWith "/") (depthLimit + parts.length) parts start

end

end ConfigBinding.Glob
