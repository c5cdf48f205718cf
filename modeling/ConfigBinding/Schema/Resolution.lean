import ConfigBinding.FieldType
import ConfigBinding.Schema.Declaration

/-!
# Resolution of declared types

Which field type a declared type is. Primitive types and the classes that box them are scalars, and
so is the type of strings. Another named type is a collection when it has exactly one argument,
whose values are then appended, or when exactly one of its constructors takes a single array.
Whatever is not understood is unknown; `FieldType.validate` reports it.
-/

namespace ConfigBinding

def primitiveType (name : String) : FieldType :=
  if name = "boolean" then .boolean
  else if name = "int" then .int
  else if name = "double" then .double
  else .unknown name

/-- The type of a class whose objects are scalars. -/
def scalarClass? (name : String) : Option FieldType :=
  if name = DeclaredType.stringName then some .string
  else if name = "java.lang.Integer" then some .int
  else if name = "java.lang.Boolean" then some .boolean
  else if name = "java.lang.Double" then some .double
  else none

namespace DeclaredType

mutual

def resolve : DeclaredType → FieldType
  | .primitive name => primitiveType name
  | .array component => .array component.resolve
  | .other name => .unknown name
  | .declared name args constructors =>
    match scalarClass? name with
    | some type => type
    | none =>
      match resolveAll args with
      | [component] => .collection name component .append
      | _ =>
        match arrayParameters constructors with
        | [] => .unknown name
        | [component] => .collection name component .arrayConstructor
        | _ => .unknown (name ++ " (ambiguous array constructors)")

def resolveAll : List DeclaredType → List FieldType
  | [] => []
  | type :: rest => type.resolve :: resolveAll rest

/-- The component types of the constructors that take a single array. -/
def arrayParameters : List (List DeclaredType) → List FieldType
  | [] => []
  | parameters :: rest => soleArray parameters ++ arrayParameters rest

/-- The component type of a parameter list that is a single array. -/
def soleArray : List DeclaredType → List FieldType
  | [.array component] => [component.resolve]
  | _ => []

end

end DeclaredType

end ConfigBinding
