import ConfigBinding.CommandLine.Run

/-!
# The program

Runs command lines on the files of the machine. Everything that a command decides is decided in
`CommandLine.run`; here are only the operations on files and the printing.
-/

namespace ConfigBinding

/-- The number of an operating system error, which some operations report negated. -/
def errorNumber (code : UInt32) : UInt32 := if code < 0x80000000 then code else 0 - code

def faultOf (error : IO.Error) : FileFault :=
  match error with
  | .noFileOrDirectory _ _ _ => .notFound
  | .alreadyExists _ _ _ => .alreadyExists
  | .inappropriateType _ code details | .invalidArgument _ code details =>
    match (errorNumber code).toNat with
    | 20 => .notDirectory
    | 21 => .isDirectory
    | 36 => .nameTooLong
    | number => .other (details ++ " (os error " ++ toString number ++ ")")
  | other => .other (toString other)

/-- Does something with files, with faults as a result. -/
def attempt {α : Type} (action : IO α) : IO (Except FileFault α) := do
  try
    return .ok (← action)
  catch error =>
    return .error (faultOf error)

def existsAt (path : String) : IO Bool := do
  if path = "" then return false else ((← IO.currentDir) / path).pathExists

def isDirectoryAt (path : String) : IO Bool := do
  if path = "" then return false else ((← IO.currentDir) / path).isDir

def readTextAt (path : String) : IO (Except FileFault String) := do
  if ← isDirectoryAt path then return .error .isDirectory
  match ← attempt (IO.FS.readBinFile path) with
  | .error fault => return .error fault
  | .ok bytes =>
    match String.fromUTF8? bytes with
    | some text => return .ok text
    | none => return .error .notText

def machine : Disk IO where
  exists? := existsAt
  isDirectory := isDirectoryAt
  names path := attempt do
    return (← ((← IO.currentDir) / path).readDir).toList.map fun entry => entry.fileName
  readText := readTextAt
  makeDirectory path := attempt (IO.FS.createDir path)
  writeText path text := attempt (IO.FS.writeFile path text)

/-- Whether the output shows colors: as the environment says, or else on a terminal. -/
def colorsPossible : IO Bool := do
  let setting (name : String) : IO (Option Bool) := do
    return (← IO.getEnv name).map fun value => value ≠ "0"
  if (← setting "CLICOLOR_FORCE") = some true then return true
  else if (← setting "NO_COLOR").isSome then return false
  else return ((← setting "CLICOLOR").getD true) && (← (← IO.getStdout).isTty)

end ConfigBinding

def main (arguments : List String) : IO UInt32 := do
  let outcome ←
    ConfigBinding.CommandLine.run ConfigBinding.machine (← ConfigBinding.colorsPossible) arguments
  IO.print outcome.output
  IO.eprint outcome.errors
  return outcome.exit.toUInt32
