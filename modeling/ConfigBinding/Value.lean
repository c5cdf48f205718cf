import ConfigBinding.Decimal.DoubleText
import ConfigBinding.Json.Whole

/-!
# Values

The values that configuration fields take: scalars, arrays and collections. Defaults, stored
settings and property texts all become values, and a bound field receives one.

* `Value.describe`: the shape of a value in messages;
* `Value.items`: the items of an array or collection;
* `Value.toJson`, `Value.ofJson`: values as JSON. They carry no tag: a whole number within 32 bits
  is an int, any other number a double, and an object is a collection.
-/

namespace ConfigBinding

/-- How a collection gets its items. -/
inductive Construction where
  /-- Empty first, then one item after the other. -/
  | append
  /-- From the whole array at once. -/
  | arrayConstructor
  deriving DecidableEq, Repr

inductive Value where
  | boolean (value : Bool)
  | int (value : Int32)
  | double (value : Double)
  | string (value : String)
  | array (items : List Value)
  | collection (container : String) (construction : Construction) (items : List Value)

structure ShapeError where
  expected : String
  found : String
  deriving DecidableEq

def ShapeError.message (e : ShapeError) : String :=
  "expected " ++ e.expected ++ ", found " ++ e.found

namespace Construction

def name : Construction → String
  | .append => "append"
  | .arrayConstructor => "array_constructor"

def variants : List (String × Construction) :=
  [.append, .arrayConstructor].map fun construction => (construction.name, construction)

end Construction

namespace Value

/-- The shape of a value. An array is described by its first item. -/
def describe : Value → String
  | .boolean _ => "boolean"
  | .int _ => "int"
  | .double _ => "double"
  | .string _ => "String"
  | .array [] => "[]"
  | .array (first :: _) => first.describe ++ "[]"
  | .collection container _ items => container ++ "(" ++ toString items.length ++ " items)"

def asArray? : Value → Option (List Value)
  | .array items => some items
  | _ => none

def refuse {α : Type} (value : Value) (expected : String) : Except ShapeError α :=
  .error ⟨expected, value.describe⟩

def items : Value → Except ShapeError (List Value)
  | .array items => .ok items
  | .collection _ _ items => .ok items
  | other => other.refuse "array"

mutual

def toJson : Value → Json
  | .boolean value => .bool value
  | .int value => .number (.whole value.toInt)
  | .double value => .number (.real value)
  | .string value => .string value
  | .array items => .array (toJsonItems items)
  | .collection container construction items =>
    .object
      [("container", .string container), ("construction", .string construction.name),
        ("items", .array (toJsonItems items))]

def toJsonItems : List Value → List Json
  | [] => []
  | value :: rest => value.toJson :: toJsonItems rest

end

def constructionOfJson : Json → Except Mismatch Construction
  | .object [(name, value)] => do
    let construction ← Json.variant Construction.variants name
    match value with
    | .null => return construction
    | other => other.refuse "unit"
  | other => Json.choice Construction.variants other

def ofNumber : Number → Value
  | .whole value =>
    match int32? value with
    | some small => .int small
    | none => .double (Double.ofInt value)
  | .real value => .double value

/-- The collection that three fields make up, the third as the value that it stands for. -/
def collectionOf? (container construction : Json) (items : Option Value) : Option Value :=
  match container, constructionOfJson construction, items with
  | .string container, .ok construction, some (.array items) =>
    some (.collection container construction items)
  | _, _, _ => none

def onlyMember? {α : Type} (name : String) (members : List (String × α)) : Option α :=
  match members.filter fun member => member.1 == name with
  | [(_, field)] => some field
  | _ => none

/-- The collection that members of an object make up, each with the value that it stands for. Other
    members than the fields do not matter. -/
def collectionOfMembers? (members : List (String × Json × Option Value)) : Option Value := do
  let (container, _) ← onlyMember? "container" members
  let (construction, _) ← onlyMember? "construction" members
  let (_, items) ← onlyMember? "items" members
  collectionOf? container construction items

mutual

/-- The value that a JSON value stands for, if any. A list that is not one of values may still be a
    collection in list form. -/
def ofJson? : Json → Option Value
  | .null => none
  | .bool value => some (.boolean value)
  | .number value => some (ofNumber value)
  | .string value => some (.string value)
  | .array items =>
    let values := ofJsonItems items
    match values.mapM id, items, values with
    | some all, _, _ => some (.array all)
    | none, [container, construction, _], [_, _, last] =>
      collectionOf? container construction last
    | none, _, _ => none
  | .object members => collectionOfMembers? (ofJsonMembers members)

def ofJsonItems : List Json → List (Option Value)
  | [] => []
  | json :: rest => ofJson? json :: ofJsonItems rest

def ofJsonMembers : List (String × Json) → List (String × Json × Option Value)
  | [] => []
  | (name, json) :: rest => (name, json, ofJson? json) :: ofJsonMembers rest

end

def ofJson (json : Json) : Except Mismatch Value :=
  match ofJson? json with
  | some value => .ok value
  | none => .error (.noVariant "Value")

end Value

end ConfigBinding
