import ConfigBinding.Files.Basic
import ConfigBinding.Json.Cursor
import ConfigBinding.Json.Printer
import ConfigBinding.Store.Basic

/-!
# Store files

A store is kept in a file as a JSON object of its categories. Only comments, properties and their
values are written; defaults, bounds and flags come from the declarations again.

* `Store.toJson`, `Store.readCategories`: the file's text, written and read;
* `Store.load`, `Store.save`: with the file that belongs to the store. A missing file changes
  nothing, and a store without a file is neither read nor written.
-/

namespace ConfigBinding

/-- An entry of an object that is left out when there is nothing to write. -/
def presentEntry (name : String) (value : Option Json) : List (String × Json) :=
  match value with
  | some json => [(name, json)]
  | none => []

namespace StoreProperty

def toJson (p : StoreProperty) : Json :=
  .object (presentEntry "value" (p.value.map Value.toJson) ++
    presentEntry "comment" (p.comment.map .string))

def readJson : Cursor → Except Fault StoreProperty :=
  let make (value : Option Value) (comment : Option String) : StoreProperty := { value, comment }
  Source.record "struct StoreProperty"
    (make <$> .optional "value" (Source.nullable (Source.whole Value.ofJson)) none
      <*> .optional "comment" (Source.nullable Source.string) none)

end StoreProperty

namespace StoreCategory

def toJson (c : StoreCategory) : Json :=
  .object (presentEntry "comment" (c.comment.map .string) ++
    [("properties", .object (c.properties.map fun (key, p) => (key, p.toJson)))])

def readJson : Cursor → Except Fault StoreCategory :=
  let make (comment : Option String) (properties : List (String × StoreProperty)) :
      StoreCategory :=
    { comment, properties := Dictionary.ofList properties }
  Source.record "struct StoreCategory"
    (make <$> .optional "comment" (Source.nullable Source.string) none
      <*> .optional "properties" (Cursor.dictionary StoreProperty.readJson) [])

end StoreCategory

inductive StoreError where
  | file (path : String) (fault : FileFault)
  | malformed (path text : String) (fault : Fault)

def StoreError.message : StoreError → String
  | .file path fault => "failed to access store file " ++ path ++ ": " ++ fault.message
  | .malformed path text fault => "malformed store file " ++ path ++ ": " ++ fault.message text

namespace Store

def toJson (s : Store) : Json := .object (s.categories.map fun (name, c) => (name, c.toJson))

def text (s : Store) : String := s.toJson.pretty

def readCategories (text : String) : Except Fault (List (String × StoreCategory)) :=
  (readWholeText (Cursor.dictionary StoreCategory.readJson) text).map Dictionary.ofList

/-- A store that belongs to a file and holds nothing yet. -/
def atPath (path : String) : Store := { path := some path }

/-- The store with the categories that its file holds. -/
def load (s : Store) (files : Files) : Except StoreError Store :=
  match s.path with
  | none => .ok s
  | some path =>
    if !files.exists? path then .ok s
    else
      match files.readText path with
      | .error fault => .error (.file path fault)
      | .ok text =>
        match readCategories text with
        | .error fault => .error (.malformed path text fault)
        | .ok categories => .ok { s with categories }

/-- Writes the file of a store, making the directories above it first. -/
def save (s : Store) (files : Files) : Files × Except StoreError Unit :=
  match s.path with
  | none => (files, .ok ())
  | some path =>
    match files.makeDirectories ((above? path).getD "") with
    | (files, .error fault) => (files, .error (.file path fault))
    | (files, .ok ()) =>
      match files.writeText path s.text with
      | .error fault => (files, .error (.file path fault))
      | .ok written => (written, .ok ())

end Store

end ConfigBinding
