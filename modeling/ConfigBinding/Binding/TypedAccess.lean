import ConfigBinding.Binding.Assignment
import ConfigBinding.Host

/-!
# Typed access

What generated code reads: properties and stored settings in the host type of an accessor, instead
of as values.
-/

namespace ConfigBinding

/-- What a typed reader hands out when there is nothing of its type. -/
def HostType.initial : HostType → HostValue
  | .value => .plain (.array [])
  | .scalar type => .plain (type.toFieldType.zero?.getD (.array []))
  | .vector _ => .vector []
  | .deque _ => .deque []
  | .hashSet _ => .hashSet []
  | .treeSet _ => .treeSet []

def StoreProperty.readTyped (p : StoreProperty) (accessor : Accessor) : HostValue :=
  match accessor.hostType.convert (p.read accessor) with
  | .ok value => value
  | .error _ => accessor.hostType.initial

def PropertySource.lookupTyped (source : PropertySource) (key : String) (accessor : Accessor)
    (default : Value) : Except BindError HostValue :=
  match source.lookup key accessor default with
  | .error error => .error (.parse error)
  | .ok value => (accessor.hostType.convert value).mapError (.value key)

end ConfigBinding
