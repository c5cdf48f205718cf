import ConfigBinding.FieldType
import ConfigBinding.Schema.Declaration

/-!
# Layouts

The layout of a configuration: its categories, at any depth, with their fields, as it is built from
a root declaration and read by everything that is generated from it.

* `Field`, `Category`, `Layout`;
* `Layout.category?`: the first category with a name, a category before those inside it.
-/

namespace ConfigBinding

inductive FieldRange where
  | int (min max : Int32)
  | double (min max : Double)
  deriving DecidableEq

structure Field where
  name : String
  description : Option String
  /-- The handle of the category. -/
  owner : String
  /-- Missing when the declared type is not usable; such a field is left out of everything. -/
  type : Option FieldType
  /-- The default in the representation of the type. -/
  default : Option Value
  restart : Restart
  range : Option FieldRange
  setter : Option Setter

def Field.resolved? (f : Field) : Option (FieldType × Value) :=
  match f.type, f.default with
  | some type, some default => some (type, default)
  | _, _ => none

structure Category where
  /-- The declared names down to the category in lower case, joined by points. It identifies the
      category wherever values are stored. -/
  name : String
  /-- The declared name. -/
  ident : String
  /-- The declared names from the root down to the category, joined by points. -/
  handle : String
  description : Option String
  restart : Restart
  children : List Category
  fields : List Field

/-- The method that is called after a sync, and whether it can be called. -/
structure OnSync where
  name : String
  callable : Bool
  deriving DecidableEq

structure Layout where
  /-- The declared name of the root. -/
  root : String
  /-- The qualified name of the root. -/
  handle : String
  /-- What language keys begin with; without it there are none. -/
  languagePrefix : Option String
  /-- What property keys begin with. -/
  propertyPrefix : String
  categories : List Category
  onSync : Option OnSync

mutual

/-- The first of a category and those inside it that has a name. -/
def Category.find? (name : String) : Category → Option Category
  | c@{ name := own, children, .. } =>
    if own = name then some c else Category.findAmong? name children

def Category.findAmong? (name : String) : List Category → Option Category
  | [] => none
  | c :: rest =>
    match c.find? name with
    | some found => some found
    | none => Category.findAmong? name rest

end

def Layout.category? (l : Layout) (name : String) : Option Category :=
  Category.findAmong? name l.categories

end ConfigBinding
