import ConfigBinding.FieldType
import ConfigBinding.Schema.Declaration

/-!
# Defaults

The default of a field. Default markers are looked at by kind (boolean, int, double, string), and
the first marker of the first kind present counts; without any the type's zero value is used. A
default that does not fit is widened if only ints need to become doubles, and replaced by the zero
value otherwise; both are reported as a mismatch.
-/

namespace ConfigBinding

def Literal.toValue {α : Type} (item : α → Value) : Literal α → Value
  | .one value => item value
  | .many values => .array (values.map item)

namespace Element

/-- The first default of the first kind present. -/
def explicitDefault? (e : Element) : Option Value :=
  let boolean? := e.marker? fun
    | .defaultBoolean literal => some (literal.toValue .boolean)
    | _ => none
  let int? := e.marker? fun
    | .defaultInt literal => some (literal.toValue .int)
    | _ => none
  let double? := e.marker? fun
    | .defaultDouble literal => some (literal.toValue .double)
    | _ => none
  let string? := e.marker? fun
    | .defaultString literal => some (literal.toValue .string)
    | _ => none
  boolean? <|> int? <|> double? <|> string?

end Element

/-- Makes a list of a scalar where the type has items, and takes the first item of a list where it
    has none. -/
def FieldType.extract (type : FieldType) (raw : Value) : Value :=
  match raw with
  | .array items =>
    if type.isArrayLike then .array items
    else
      match items with
      | first :: _ => first
      | [] => type.zero?.getD (.array [])
  | scalar => if type.isArrayLike then .array [scalar] else scalar

structure DefaultMismatch where
  found : String
  expected : String
  deriving DecidableEq

def DefaultMismatch.message (m : DefaultMismatch) : String :=
  "Unexpected default of type " ++ m.found ++ ", wanted " ++ m.expected

/-- A default in the representation of its type, and what was wrong with the declared one. -/
structure ResolvedDefault where
  value : Value
  mismatch : Option DefaultMismatch

/-- The default of a field; a type that has no zero value has no default either. -/
def Element.resolveDefault? (e : Element) (type : FieldType) : Option ResolvedDefault :=
  type.zero?.map fun zero =>
    match e.explicitDefault? with
    | none => ⟨zero, none⟩
    | some raw =>
      let value := type.extract raw
      if value.conforms type then ⟨value, none⟩
      else
        ⟨(value.widen? type).getD zero, some ⟨value.describe, type.representation.text⟩⟩

end ConfigBinding
