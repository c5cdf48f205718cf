import ConfigBinding.Binding.Metadata
import ConfigBinding.Binding.PropertyLoader
import ConfigBinding.Binding.StoreLoader

/-!
# Backends

The kinds of bindings that can be made from a layout.
-/

namespace ConfigBinding

inductive Backend where
  /-- To a store with comments, bounds and flags. -/
  | store
  /-- To properties, by their keys. -/
  | property
  /-- A tree of properties. -/
  | metadata
  deriving DecidableEq

inductive Binding where
  | store (loader : StoreLoader)
  | property (loader : PropertyLoader)
  | metadata (metadata : Metadata)

namespace Backend

/-- All kinds, in the order in which bindings are made. -/
def all : List Backend := [.store, .property, .metadata]

def name : Backend → String
  | .store => "store"
  | .property => "property"
  | .metadata => "metadata"

def bindingOf (l : Layout) : Backend → Binding
  | .store => .store (.ofLayout l)
  | .property => .property (.ofLayout l)
  | .metadata => .metadata (.ofLayout l)

end Backend

namespace Binding

def backend : Binding → Backend
  | .store _ => .store
  | .property _ => .property
  | .metadata _ => .metadata

def root : Binding → String
  | .store loader => loader.root
  | .property loader => loader.root
  | .metadata tree => tree.root

end Binding

end ConfigBinding
