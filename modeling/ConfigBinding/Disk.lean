import ConfigBinding.Files.Basic

/-!
# Disks

What a program needs from wherever its files are. `Disk.ofFiles` is the tree of files of `Files`,
which each operation leads to its next state.
-/

namespace ConfigBinding

/-- The operations on files, in the monad in which they take place. -/
structure Disk (m : Type → Type) where
  exists? : String → m Bool
  isDirectory : String → m Bool
  /-- The names in a directory, in any order. -/
  names : String → m (Except FileFault (List String))
  readText : String → m (Except FileFault String)
  /-- Makes a directory; the one above it must be there. -/
  makeDirectory : String → m (Except FileFault Unit)
  writeText : String → String → m (Except FileFault Unit)

namespace Disk

/-- Makes a directory and those above it where they are missing. -/
def makeDirectories {m : Type → Type} [Monad m] (disk : Disk m) (path : String) :
    m (Except FileFault Unit) :=
  makeMissing disk.makeDirectory disk.isDirectory (directoriesTo path)

def ask {α : Type} (question : Files → α) : StateM Files α := fun files => (question files, files)

def ofFiles : Disk (StateM Files) where
  exists? path := ask (·.exists? path)
  isDirectory path := ask (·.isDirectory path)
  names path := ask (·.names path)
  readText path := ask (·.readText path)
  makeDirectory path := Files.attempting (·.makeDirectory path)
  writeText path text := Files.attempting (·.writeText path text)

end Disk

end ConfigBinding
