import ConfigBinding.Text.Case
import ConfigBinding.Value

/-!
# Field types

The types that configuration fields have once their declarations are resolved, and which values fit
them.

* `FieldType.validate`: only scalars, arrays of scalars and collections of scalars are usable;
* `FieldType.representation`: the shape in which values of a type travel, where a collection is an
  array of its items;
* `Value.conforms`, `Value.widen`: whether a value has the shape of a type, and the conversion of
  ints to doubles that can give it the shape;
* `FieldType.realize`: builds the value of a field from its representation;
* `Accessor`: the reading operation shared by all sources of values.
-/

namespace ConfigBinding

inductive FieldType where
  | boolean
  | int
  | double
  | string
  | array (component : FieldType)
  | collection (container : String) (component : FieldType) (construction : Construction)
  | unknown (name : String)
  deriving DecidableEq

/-- The types without components that a field may have. -/
inductive ScalarType where
  | boolean
  | int
  | double
  | string
  deriving DecidableEq

namespace ScalarType

def toFieldType : ScalarType → FieldType
  | .boolean => .boolean
  | .int => .int
  | .double => .double
  | .string => .string

/-- The name of a scalar type in the names of operations. -/
def suffix : ScalarType → String
  | .boolean => "Boolean"
  | .int => "Int"
  | .double => "Double"
  | .string => "String"

end ScalarType

namespace FieldType

/-- A type as messages show it. -/
def text : FieldType → String
  | .boolean => "boolean"
  | .int => "int"
  | .double => "double"
  | .string => "String"
  | .array component => component.text ++ "[]"
  | .collection container component _ => container ++ "<" ++ component.text ++ ">"
  | .unknown name => name

def component? : FieldType → Option FieldType
  | .array component => some component
  | .collection _ component _ => some component
  | _ => none

def isArrayLike (type : FieldType) : Bool := type.component?.isSome

/-- The shape in which values of a type travel. -/
def representation : FieldType → FieldType
  | .collection _ component _ => .array component
  | type => type

def scalar? : FieldType → Option ScalarType
  | .boolean => some .boolean
  | .int => some .int
  | .double => some .double
  | .string => some .string
  | _ => none

end FieldType

inductive TypeError where
  | unknown (name : String)
  | nestedArray
  deriving DecidableEq

def TypeError.message : TypeError → String
  | .unknown name => "Unknown type " ++ name
  | .nestedArray => "Nested arrays are not allowed"

/-- Checks that a type is a scalar, an array of scalars or a collection of scalars. -/
def FieldType.validate (type : FieldType) : Except TypeError Unit :=
  match type with
  | .unknown name => .error (.unknown name)
  | .array component | .collection _ component _ =>
    match component with
    | .array _ | .collection _ _ _ => .error .nestedArray
    | .unknown name => .error (.unknown name)
    | .boolean | .int | .double | .string => .ok ()
  | .boolean | .int | .double | .string => .ok ()

/-- A reading operation: of one scalar or of a list of them. -/
structure Accessor where
  scalar : ScalarType
  isList : Bool
  deriving DecidableEq

namespace Accessor

/-- The name of what is read, such as `IntList`. -/
def suffix (a : Accessor) : String := a.scalar.suffix ++ (if a.isList then "List" else "")

def type (a : Accessor) : FieldType :=
  if a.isList then .array a.scalar.toFieldType else a.scalar.toFieldType

/-- The name of the operation, such as `get_int_list`. -/
def method (a : Accessor) : String := "get_" ++ Text.snakeCase a.suffix

end Accessor

/-- The operation that reads values of a type; an unusable type has none. -/
def FieldType.accessor? (type : FieldType) : Option Accessor :=
  match type with
  | .array component | .collection _ component _ => component.scalar?.map (⟨·, true⟩)
  | other => other.scalar?.map (⟨·, false⟩)

/-- The value of a type, in its representation, when nothing else is known. -/
def FieldType.zero? : FieldType → Option Value
  | .boolean => some (.boolean false)
  | .int => some (.int 0)
  | .double => some (.double .zero)
  | .string => some (.string "")
  | .array _ | .collection _ _ _ => some (.array [])
  | .unknown _ => none

def Value.conforms (value : Value) (type : FieldType) : Bool :=
  match type with
  | .boolean => match value with | .boolean _ => true | _ => false
  | .int => match value with | .int _ => true | _ => false
  | .double => match value with | .double _ => true | _ => false
  | .string => match value with | .string _ => true | _ => false
  | .array component | .collection _ component _ =>
    match value with
    | .array items => items.all fun item => item.conforms component
    | _ => false
  | .unknown _ => false

/-- A value in the representation of a type when only ints need to become doubles. Items that
    conform are kept as they are. -/
def Value.widen? (value : Value) (type : FieldType) : Option Value :=
  match type with
  | .double => match value with | .int n => some (.double (.ofInt n.toInt)) | _ => none
  | .array component | .collection _ component _ =>
    match value with
    | .array items =>
      (items.mapM fun (item : Value) =>
        if item.conforms component then some item else item.widen? component).map .array
    | _ => none
  | _ => none

/-- The value of a field of this type, built from its representation. -/
def FieldType.realize (type : FieldType) (raw : Value) : Value :=
  match type, raw with
  | .collection container _ construction, .array items => .collection container construction items
  | _, _ => raw

end ConfigBinding
