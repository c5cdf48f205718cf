import ConfigBinding.Binding.Assignment
import ConfigBinding.Layout.Basic

/-!
# Binding to properties

A property loader binds the fields of a layout, those of inner categories first, to the properties
whose keys are the declared names down to the fields.

* `PropertyLoader.ofLayout`: the properties for a layout;
* `PropertyLoader.init`: binds every field.
-/

namespace ConfigBinding

/-- How a field is bound to a property. -/
structure PropertyField where
  key : String
  default : Value
  accessor : Accessor
  type : FieldType
  /-- The declared names from the root down to the field. -/
  target : List String
  setter : Option Setter

structure PropertyLoader where
  root : String
  fields : List PropertyField

/-- The key of the property for a path of declared names. -/
def propertyKey (keyPrefix : String) (target : List String) : String :=
  keyPrefix ++ "." ++ String.intercalate "." target

/-- How a field is bound, which lies in the category at a path; one of an unusable type is not. -/
def Field.propertyField? (keyPrefix : String) (path : List String) (f : Field) :
    Option PropertyField := do
  let (type, default) ← f.resolved?
  let accessor ← type.accessor?
  let target := path ++ [f.name]
  return {
    key := propertyKey keyPrefix target, default, accessor, type, target, setter := f.setter }

mutual

def Category.propertyFields (keyPrefix : String) (above : List String) :
    Category → List PropertyField
  | c@{ children, .. } =>
    let path := above ++ [c.ident]
    Category.propertyFieldsAll keyPrefix path children ++
      c.fields.filterMap (Field.propertyField? keyPrefix path)

def Category.propertyFieldsAll (keyPrefix : String) (above : List String) :
    List Category → List PropertyField
  | [] => []
  | c :: rest =>
    c.propertyFields keyPrefix above ++ Category.propertyFieldsAll keyPrefix above rest

end

namespace PropertyLoader

def ofLayout (l : Layout) : PropertyLoader where
  root := l.root
  fields := Category.propertyFieldsAll l.propertyPrefix [] l.categories

end PropertyLoader

def PropertyField.bind (source : PropertySource) (field : PropertyField) (state : Unit) :
    Run Unit :=
  match source.lookup field.key field.accessor field.default with
  | .error error => .fail state (.parse error)
  | .ok raw => assign field.setter field.key field.type raw state

def PropertyLoader.init (loader : PropertyLoader) (source : PropertySource) : Run Unit :=
  Run.forEach (PropertyField.bind source) loader.fields ()

end ConfigBinding
