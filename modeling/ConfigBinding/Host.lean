import ConfigBinding.FieldType

/-!
# Host types

The types of the places that bound values are written to, and the conversions into them. Scalars are
strict: an int is not accepted where a double is wanted. Containers take the items of an array or of
a collection; sets drop duplicates, and their items are kept in order.
-/

namespace ConfigBinding

/-- The type of a place in a host. -/
inductive HostType where
  | value
  | scalar (type : ScalarType)
  | vector (item : HostType)
  | deque (item : HostType)
  | hashSet (item : ScalarType)
  | treeSet (item : ScalarType)
  deriving DecidableEq

/-- What a place in a host holds. -/
inductive HostValue where
  | plain (value : Value)
  | vector (items : List HostValue)
  | deque (items : List HostValue)
  | hashSet (items : List Value)
  | treeSet (items : List Value)

def ScalarType.convert (type : ScalarType) (value : Value) : Except ShapeError Value :=
  if value.conforms type.toFieldType then .ok value else value.refuse type.toFieldType.text

/-- Whether a scalar comes strictly before another one of its type: false before true, numbers by
    size, text by its characters. -/
def Value.before : Value → Value → Bool
  | .boolean first, .boolean second => !first && second
  | .int first, .int second => first < second
  | .string first, .string second => first < second
  | _, _ => false

/-- Puts an item into an ordered list without duplicates. -/
def insertOrdered (item : Value) : List Value → List Value
  | [] => [item]
  | first :: rest =>
    if item.before first then item :: first :: rest
    else if first.before item then first :: insertOrdered item rest
    else first :: rest

def orderedItems (items : List Value) : List Value :=
  items.foldl (fun set item => insertOrdered item set) []

def HostType.convert (type : HostType) (value : Value) : Except ShapeError HostValue :=
  match type with
  | .value => .ok (.plain value)
  | .scalar inner => (inner.convert value).map .plain
  | .vector item => do return .vector (← (← value.items).mapM item.convert)
  | .deque item => do return .deque (← (← value.items).mapM item.convert)
  | .hashSet item => do return .hashSet (orderedItems (← (← value.items).mapM item.convert))
  | .treeSet item => do return .treeSet (orderedItems (← (← value.items).mapM item.convert))

def Accessor.hostType (a : Accessor) : HostType :=
  if a.isList then .vector (.scalar a.scalar) else .scalar a.scalar

/-- The host type that fits the values of a field type: of its representation. -/
def FieldType.hostType? (type : FieldType) : Option HostType := type.accessor?.map Accessor.hostType

end ConfigBinding
