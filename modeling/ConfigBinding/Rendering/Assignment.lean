import ConfigBinding.FieldType
import ConfigBinding.Rendering.Page
import ConfigBinding.Text.Identifier

/-!
# Assignments in generated source

A field of the host is a place: a variable followed by the identifiers of the declared names down to
the field. Collections are either filled item by item or made from all items at once.
-/

namespace ConfigBinding

def placeOf (base : String) (path : List String) : String :=
  base ++ String.join (path.map fun name => "." ++ Text.identifier name)

/-- A qualified name without what stands before its last point. -/
def simpleName (qualified : String) : String :=
  String.ofList (qualified.toList.reverse.takeWhile (· ≠ '.')).reverse

def assignment (base : String) (path : List String) (type : FieldType) (expression : String) :
    List Stroke :=
  let place := placeOf base path
  match type with
  | .collection _ _ .append =>
    let items := Text.identifier (String.intercalate "_" path)
    [.line ("let " ++ items ++ " = " ++ expression ++ ";"),
      .line (place ++ " = Default::default();")] ++
      block ("for item in " ++ items ++ " \x7b") [.line (place ++ ".extend([item]);")] "\x7d"
  | .collection container _ .arrayConstructor =>
    [.line (place ++ " = " ++ simpleName container ++ "::from(" ++ expression ++ ");")]
  | _ => [.line (place ++ " = " ++ expression ++ ";")]

end ConfigBinding
