import ConfigBinding.FieldType
import ConfigBinding.Text.Quoted

/-!
# Literals

Values and types as expressions of generated source.

* `Value.literal`: an expression for a value of a type. The type is needed for empty lists, which
  name the type of their items;
* `FieldType.literal`: an expression for a type.
-/

namespace ConfigBinding

/-- An int as an expression; the least and the greatest have names. -/
def intLiteral (n : Int32) : String :=
  if n = Int32.minValue then "i32::MIN"
  else if n = Int32.maxValue then "i32::MAX"
  else toString n.toInt

/-- A double as an expression; those that are not finite have names. -/
def doubleLiteral : Double → String
  | .nan => "f64::NAN"
  | .infinite false => "f64::INFINITY"
  | .infinite true => "f64::NEG_INFINITY"
  | finite => finite.write .source

/-- The generated language's name of the type of items. -/
def FieldType.itemName : FieldType → String
  | .boolean => "bool"
  | .int => "i32"
  | .double => "f64"
  | _ => "String"

def optionalLiteral : Option String → String
  | some text => "Some(" ++ Text.quoted text ++ ".to_string())"
  | none => "None"

mutual

def Value.literal (type : FieldType) : Value → String
  | .boolean value => if value then "true" else "false"
  | .int value => intLiteral value
  | .double value => doubleLiteral value
  | .string value => Text.quoted value
  | .array items => Value.listLiteral (type.component?.getD type) items
  | .collection _ _ items => Value.listLiteral (type.component?.getD type) items

def Value.listLiteral (component : FieldType) : List Value → String
  | [] => "Vec::<" ++ component.itemName ++ ">::new()"
  | first :: rest =>
    "vec![" ++ first.literal component ++ Value.restLiteral component rest ++ "]"

/-- The items after the first as part of an expression. -/
def Value.restLiteral (component : FieldType) : List Value → String
  | [] => ""
  | value :: rest => ", " ++ value.literal component ++ Value.restLiteral component rest

end

def Construction.literal : Construction → String
  | .append => "Construction::Append"
  | .arrayConstructor => "Construction::ArrayConstructor"

def FieldType.literal : FieldType → String
  | .boolean => "Ty::Boolean"
  | .int => "Ty::Int"
  | .double => "Ty::Double"
  | .string => "Ty::String"
  | .array component => "Ty::Array(Box::new(" ++ component.literal ++ "))"
  | .collection container component construction =>
    "Ty::Collection \x7b container: " ++ Text.quoted container ++
      ".to_string(), component: Box::new(" ++ component.literal ++ "), construction: " ++
      construction.literal ++ " \x7d"
  | .unknown name => "Ty::Unknown(" ++ Text.quoted name ++ ".to_string())"

end ConfigBinding
