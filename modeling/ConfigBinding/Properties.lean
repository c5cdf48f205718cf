import ConfigBinding.Decimal.Numeral
import ConfigBinding.FieldType

/-!
# Properties

Settings given as text by key, such as the environment of a process. The text of a list holds its
items between commas.

* `PropertySource.lookup`: the value under a key, or the default when the key is absent;
* `Accessor.parse`: the value that a text stands for. The empty text is the empty list.
-/

namespace ConfigBinding

abbrev PropertySource := String → Option String

/-- The text under a key that is no scalar of the expected type. In a list it is the text of one
    item. -/
structure ParseError where
  key : String
  raw : String
  expected : ScalarType
  deriving DecidableEq

def ParseError.message (e : ParseError) : String :=
  "property `" ++ e.key ++ "`: cannot parse " ++ Text.quoted e.raw ++ " as " ++
    e.expected.toFieldType.text

/-- The scalar that a text stands for. Any text is a boolean, true only if it says so, and any text
    is a string. -/
def ScalarType.parse? (type : ScalarType) (raw : String) : Option Value :=
  match type with
  | .boolean => some (.boolean (raw.toList.map Char.toLower == "true".toList))
  | .int => (readInt32 raw).map .int
  | .double => (readDouble raw).map .double
  | .string => some (.string raw)

/-- The pieces of a text between commas; there is always at least one. -/
def splitAtCommas : List Char → List (List Char)
  | [] => [[]]
  | c :: rest =>
    if c = ',' then [] :: splitAtCommas rest
    else
      match splitAtCommas rest with
      | [] => [[c]]
      | piece :: pieces => (c :: piece) :: pieces

def listItems (raw : String) : List String :=
  if raw.isEmpty then [] else (splitAtCommas raw.toList).map String.ofList

def Accessor.parse (accessor : Accessor) (key raw : String) : Except ParseError Value :=
  let scalar (text : String) : Except ParseError Value :=
    match accessor.scalar.parse? text with
    | some value => .ok value
    | none => .error ⟨key, text, accessor.scalar⟩
  if accessor.isList then ((listItems raw).mapM scalar).map .array else scalar raw

/-- The value under a key, or the default when the key is absent. -/
def PropertySource.lookup (source : PropertySource) (key : String) (accessor : Accessor)
    (default : Value) : Except ParseError Value :=
  match source key with
  | none => .ok default
  | some raw => accessor.parse key raw

end ConfigBinding
