import ConfigBinding.Files.Basic
import ConfigBinding.Schema.DeclarationJson

/-!
# Loading documents

Texts that hold documents, and the files of such texts. An error names the path of the file, and of
a text that cannot be read also the path to the value in it and the position.
-/

namespace ConfigBinding

inductive LoadError where
  | file (path : String) (fault : FileFault)
  | malformed (path text : String) (fault : Fault)

def LoadError.message : LoadError → String
  | .file path fault => "failed to read schema document " ++ path ++ ": " ++ fault.message
  | .malformed path text fault =>
    path ++ ": at JSON path " ++ showPath fault.path ++ " → " ++ fault.message text

def loadText {α : Type} (read : Cursor → Except Fault α) (path text : String) :
    Except LoadError α :=
  (readText read text).mapError (.malformed path text)

namespace Document

def ofText (path text : String) : Except LoadError Document := loadText Document.read path text

def load (path : String) (files : Files) : Except LoadError Document :=
  match files.readText path with
  | .error fault => .error (.file path fault)
  | .ok text => ofText path text

end Document

end ConfigBinding
