import ConfigBinding.Decimal.DoubleText
import ConfigBinding.Json.Basic
import ConfigBinding.Text.Quoted

/-!
# Faults in JSON text

What can be wrong with a JSON text and how it is reported.

* `Malformation`: the text breaks a rule of JSON, or a limit of the reader;
* `Mismatch`: the text is JSON but not the value that is wanted;
* `Fault`: either of them, with the path to the value concerned and, where one is known, the number
  of bytes read when it was found;
* `Fault.message`: the cause, followed by the line and column.
-/

namespace ConfigBinding

inductive Malformation where
  | endInValue
  | endInList
  | endInObject
  | endInString
  | expectedValue
  | expectedWord
  | expectedColon
  | expectedListEnd
  | expectedObjectEnd
  | keyNotString
  | trailingComma
  | trailingText
  | badNumber
  | numberTooLarge
  | badEscape
  | rawControl
  | loneSurrogate
  | unpairedSurrogate
  | tooDeep
  deriving DecidableEq

def Malformation.message : Malformation → String
  | .endInValue => "EOF while parsing a value"
  | .endInList => "EOF while parsing a list"
  | .endInObject => "EOF while parsing an object"
  | .endInString => "EOF while parsing a string"
  | .expectedValue => "expected value"
  | .expectedWord => "expected ident"
  | .expectedColon => "expected `:`"
  | .expectedListEnd => "expected `,` or `]`"
  | .expectedObjectEnd => "expected `,` or `\x7d`"
  | .keyNotString => "key must be a string"
  | .trailingComma => "trailing comma"
  | .trailingText => "trailing characters"
  | .badNumber => "invalid number"
  | .numberTooLarge => "number out of range"
  | .badEscape => "invalid escape"
  | .rawControl => "control character (\\u0000-\\u001F) found while parsing a string"
  | .loneSurrogate => "lone leading surrogate in hex escape"
  | .unpairedSurrogate => "unexpected end of hex escape"
  | .tooDeep => "recursion limit exceeded"

/-- A broken rule and the number of bytes read when it was found. -/
structure Defect where
  reason : Malformation
  offset : Nat
  deriving DecidableEq

/-- What stands in the text where something else is wanted. -/
inductive Found where
  | null
  | bool (value : Bool)
  | number (value : Number)
  | string (value : String)
  | map
  | sequence
  deriving DecidableEq

def Found.message : Found → String
  | .null => "null"
  | .bool value => "boolean `" ++ (if value then "true" else "false") ++ "`"
  | .number (.whole value) => "integer `" ++ toString value ++ "`"
  | .number (.real value) => "floating point `" ++ value.write .json ++ "`"
  | .string value => "string " ++ Text.quoted value
  | .map => "map"
  | .sequence => "sequence"

inductive Mismatch where
  | wrongType (found : Found) (expected : String)
  | wrongValue (found : Found) (expected : String)
  | wrongLength (length : Nat) (expected : String)
  | missingField (name : String)
  | duplicateField (name : String)
  | unknownVariant (name : String) (known : List String)
  | noVariant (choice : String)
  deriving DecidableEq

def alternatives (names : List String) : String :=
  match names.map fun name => "`" ++ name ++ "`" with
  | [one, other] => one ++ " or " ++ other
  | [one] => one
  | all => "one of " ++ String.intercalate ", " all

def Mismatch.message : Mismatch → String
  | .wrongType found expected => "invalid type: " ++ found.message ++ ", expected " ++ expected
  | .wrongValue found expected => "invalid value: " ++ found.message ++ ", expected " ++ expected
  | .wrongLength length expected =>
    "invalid length " ++ toString length ++ ", expected " ++ expected
  | .missingField name => "missing field `" ++ name ++ "`"
  | .duplicateField name => "duplicate field `" ++ name ++ "`"
  | .unknownVariant name known =>
    "unknown variant `" ++ name ++ "`, expected " ++ alternatives known
  | .noVariant choice => "data did not match any variant of untagged enum " ++ choice

inductive Cause where
  | malformed (reason : Malformation)
  | mismatch (reason : Mismatch)
  deriving DecidableEq

def Cause.message : Cause → String
  | .malformed reason => reason.message
  | .mismatch reason => reason.message

inductive PathStep where
  | item (index : Nat)
  | member (name : String)
  | unreadableKey
  deriving DecidableEq

/-- A path as messages show it: names joined by points, indices in brackets, `?` for a key that
    could not be read and a single point for the root. -/
def showPath (path : List PathStep) : String :=
  let piece (isFirst : Bool) : PathStep → String
    | .item index => "[" ++ toString index ++ "]"
    | .member name => (if isFirst then "" else ".") ++ name
    | .unreadableKey => (if isFirst then "" else ".") ++ "?"
  match path with
  | [] => "."
  | first :: rest => String.join (piece true first :: rest.map (piece false))

/-- Something wrong at a place of a text. The offset is missing where nothing supplies a position:
    for a value that was read whole before it was found unfit. -/
structure Fault where
  path : List PathStep
  offset : Option Nat
  cause : Cause
  deriving DecidableEq

namespace Fault

def ofDefect (defect : Defect) : Fault := ⟨[], some defect.offset, .malformed defect.reason⟩

def ofKeyDefect (defect : Defect) : Fault :=
  ⟨[.unreadableKey], some defect.offset, .malformed defect.reason⟩

def ofMismatch (offset : Nat) (mismatch : Mismatch) : Fault :=
  ⟨[], some offset, .mismatch mismatch⟩

/-- A fault seen from the list or object around it. -/
def under (fault : Fault) (step : PathStep) : Fault := { fault with path := step :: fault.path }

end Fault

/-- The line, counted from one, and the column that so many bytes of a text reach. -/
def lineAndColumn (text : List Char) (offset : Nat) : Nat × Nat :=
  go 1 0 0 text
where
  /-- Goes on from byte `here` of a text whose current line begins at byte `lineStart`. -/
  go (line lineStart here : Nat) : List Char → Nat × Nat
    | [] => (line, offset - lineStart)
    | c :: rest =>
      if offset ≤ here then (line, offset - lineStart)
      else if c == '\n' then go (line + 1) (here + 1) (here + 1) rest
      else go line lineStart (here + c.utf8Size) rest

def Fault.message (fault : Fault) (text : String) : String :=
  match fault.offset with
  | none => fault.cause.message
  | some offset =>
    let (line, column) := lineAndColumn text.toList offset
    fault.cause.message ++ " at line " ++ toString line ++ " column " ++ toString column

end ConfigBinding
