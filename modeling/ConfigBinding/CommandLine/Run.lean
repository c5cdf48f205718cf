import ConfigBinding.CommandLine.Options
import ConfigBinding.Compile
import ConfigBinding.Glob.Search
import ConfigBinding.Rendering.BindingSource
import ConfigBinding.Schema.Load

/-!
# Running commands

A command finds its documents, compiles their roots one document after the other, and prints or
writes what came of them. What goes wrong with a file ends the command; what is wrong with a root is
reported.

* `run`: runs a command line on a disk;
* `Outcome`: the exit code and everything printed.
-/

namespace ConfigBinding.CommandLine

structure Failure where
  message : String
  /-- What it was brought about by. -/
  cause : Option String

/-- The text of a failure; the lines of the cause are indented. -/
def Failure.text (f : Failure) : String :=
  let cause :=
    match f.cause with
    | some cause => "\n\nCaused by:\n    " ++ String.intercalate "\n    " (cause.splitOn "\n")
    | none => ""
  "Error: " ++ f.message ++ cause ++ "\n"

/-- What a command leaves behind besides files. -/
structure Outcome where
  exit : Nat
  output : String := ""
  errors : String := ""

def usage : String :=
  "Usage: configgen [--no-color] check -i DOCUMENT... [--parallel] [--json]\n" ++
    "       configgen [--no-color] emit -i DOCUMENT... [--parallel]\n" ++
    "                 [--backend store|property|metadata|all...] [-o DIRECTORY]\n"

/-! ## Documents -/

section

variable {m : Type → Type} [Monad m]

/-- Whether a document is given by a pattern. Braces make one although they match only themselves.
    -/
def isPattern (document : String) : Bool :=
  document.toList.any fun c => ['*', '?', '[', '\x7b'].contains c

/-- The paths of the documents that paths and patterns name, in order. A pattern has to match
    something. -/
def resolve (disk : Disk m) : List String → m (Except String (List String))
  | [] => pure (.ok [])
  | document :: rest => do
    let here : Except String (List String) ←
      if !isPattern document then pure (.ok [document])
      else
        match ← Glob.search disk document with
        | .error e => pure (.error e.message)
        | .ok [] => pure (.error ("glob pattern matched no files: " ++ document))
        | .ok paths => pure (.ok paths)
    match here with
    | .error cause => return .error cause
    | .ok paths =>
      match ← resolve disk rest with
      | .error cause => return .error cause
      | .ok others => return .ok (paths ++ others)

def loadDocument (disk : Disk m) (path : String) : m (Except Failure Document) := do
  match ← disk.readText path with
  | .error fault => return .error ⟨(LoadError.file path fault).message, some fault.message⟩
  | .ok text =>
    match Document.ofText path text with
    | .error e => return .error ⟨e.message, none⟩
    | .ok document => return .ok document

structure Report where
  path : String
  compiled : Compiled

/-- Compiles the documents at paths, up to the first that cannot be loaded. -/
def compileAll (disk : Disk m) (backends : List Backend) :
    List String → m (List Report × Option Failure)
  | [] => pure ([], none)
  | path :: rest => do
    match ← loadDocument disk path with
    | .error failure => return ([], some failure)
    | .ok document =>
      let (others, failure) ← compileAll disk backends rest
      return ((document.compile backends).map (⟨path, ·⟩) ++ others, failure)

/-- Writes texts to files in a directory, up to the first that cannot be written. -/
def writeAll (disk : Disk m) (directory : String) : List (String × String) → m (Option Failure)
  | [] => pure none
  | (name, text) :: rest => do
    let path := joinPath directory name
    match ← disk.writeText path text with
    | .error fault => return some ⟨"failed to write " ++ path, some fault.message⟩
    | .ok () => writeAll disk directory rest

end

/-! ## Reports -/

def diagnosticsText (colored : Bool) (reports : List Report) : String :=
  String.join (reports.map fun report =>
    if report.compiled.diagnostics.isEmpty then ""
    else report.compiled.diagnostics.render colored ++ "\n")

def Report.toJson (report : Report) : Json :=
  .object
    [("document", .string report.path), ("root", .string report.compiled.root),
      ("fatal", .bool report.compiled.isFatal),
      ("diagnostics", report.compiled.diagnostics.toJson)]

def fatalCount (reports : List Report) : Nat := reports.countP fun report => report.compiled.isFatal

def severityCount (severity : Severity) (reports : List Report) : Nat :=
  (reports.flatMap fun report => report.compiled.diagnostics).countP fun d => d.severity == severity

/-- The last line of what is printed. -/
def summary (colored : Bool) (reports : List Report) : String :=
  let count := severityCount .error reports
  let errors := toString count ++ " error(s)"
  let errors := if colored && 0 < count then Severity.error.emphasize errors else errors
  let skipped :=
    if 0 < fatalCount reports then ", " ++ toString (fatalCount reports) ++ " skipped" else ""
  "compiled " ++ toString reports.length ++ " root(s): " ++ errors ++ ", " ++
    toString (severityCount .warning reports) ++ " warning(s)" ++ skipped ++ "\n"

def finished (colored : Bool) (reports : List Report) (output errors : String) : Outcome where
  exit := if 0 < severityCount .error reports then 1 else 0
  output
  errors := errors ++ summary colored reports

def failed (errors : String) (failure : Failure) : Outcome where
  exit := 1
  errors := errors ++ failure.text

/-! ## Commands -/

section

variable {m : Type → Type} [Monad m]

/-- The source of the bindings of roots, each with the name of its file. -/
def sources (reports : List Report) : List (String × String) :=
  reports.flatMap fun report =>
    report.compiled.bindings.map fun binding => (binding.fileName, binding.source)

/-- Prints sources, or writes them into a directory that is made first. -/
def deliver (disk : Disk m) (directory : Option String) (files : List (String × String)) :
    m (String × Option Failure) := do
  match directory with
  | none => return (String.join (files.map fun file => file.2 ++ "\n"), none)
  | some directory =>
    match ← disk.makeDirectories directory with
    | .error fault =>
      return ("", some ⟨"failed to create " ++ directory, some fault.message⟩)
    | .ok () => return ("", ← writeAll disk directory files)

def Command.run (disk : Disk m) (colored : Bool) (command : Command) : m Outcome := do
  let backends :=
    match command.action with
    | .check _ => []
    | .emit backends _ => backends
  match ← resolve disk command.documents with
  | .error cause => return failed "" ⟨"failed to resolve input file paths", some cause⟩
  | .ok paths =>
    let (reports, failure) ← compileAll disk backends paths
    match command.action, failure with
    | .check json, failure =>
      let errors := if json then "" else diagnosticsText colored reports
      match failure with
      | some failure => return failed errors failure
      | none =>
        let output := if json then (Json.array (reports.map Report.toJson)).pretty ++ "\n" else ""
        return finished colored reports output errors
    | .emit _ _, some failure => return failed (diagnosticsText colored reports) failure
    | .emit _ directory, none =>
      let errors := diagnosticsText colored reports
      match ← deliver disk directory (sources reports) with
      | (output, some failure) => return { failed errors failure with output }
      | (output, none) => return finished colored reports output errors

/-- Runs a command line. Colors are used where they are wanted and possible. -/
def run (disk : Disk m) (colorsPossible : Bool) (arguments : List String) : m Outcome :=
  match Request.ofArguments arguments with
  | .help => pure { exit := 0, output := usage }
  | .misuse => pure { exit := 2, errors := "error: arguments not understood\n\n" ++ usage }
  | .run command => command.run disk (command.colors && colorsPossible)

end

end ConfigBinding.CommandLine
