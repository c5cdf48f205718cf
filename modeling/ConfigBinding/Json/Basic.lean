import ConfigBinding.Decimal.Double

/-!
# JSON values

A JSON value without its layout in the text. A number is either a whole number, as far as 64 bits
reach, or a double; the members of an object keep their order, and names may repeat.
-/

namespace ConfigBinding

inductive Number where
  | whole (value : Int)
  | real (value : Double)
  deriving DecidableEq

inductive Json where
  | null
  | bool (value : Bool)
  | number (value : Number)
  | string (value : String)
  | array (items : List Json)
  | object (members : List (String × Json))

/-- How many lists and objects may stand inside each other in a text that is read. -/
def levelLimit : Nat := 127

/-- How many values may stand inside each other, the outermost included: as many as a text that is
    read can hold. It bounds the recursion of readers of whole values. -/
def heldLevels : Nat := levelLimit + 1

end ConfigBinding
