import ConfigBinding.Binding.Backend
import ConfigBinding.Layout.Survey

/-!
# Compiling

A root is compiled by surveying it and making the wanted bindings for its layout. The roots of a
document are compiled in order, each for itself; a root that has no layout stops no other.
-/

namespace ConfigBinding

structure Compiled where
  /-- The qualified name of the root. -/
  root : String
  layout : Option Layout
  diagnostics : Diagnostics
  bindings : List Binding

structure FatalError where
  root : String
  errors : Nat
  deriving DecidableEq

def FatalError.message (e : FatalError) : String :=
  "schema `" ++ e.root ++ "` failed with " ++ toString e.errors ++
    " error(s), nothing was emitted"

namespace Compiled

def isFatal (c : Compiled) : Bool := c.layout.isNone

def bindings? (c : Compiled) : Except FatalError (List Binding) :=
  if c.isFatal then .error ⟨c.root, c.diagnostics.errorCount⟩ else .ok c.bindings

end Compiled

/-- Compiles a root. The order of the backends asked for does not matter. -/
def ClassDecl.compile (backends : List Backend) (root : ClassDecl) : Compiled :=
  let (layout, diagnostics) := root.survey
  let wanted := Backend.all.filter fun backend => backends.contains backend
  { root := root.qualifiedName
    layout
    diagnostics
    bindings := layout.toList.flatMap fun l => wanted.map fun backend => backend.bindingOf l }

def Document.compile (backends : List Backend) (document : Document) : List Compiled :=
  document.roots.map (ClassDecl.compile backends)

end ConfigBinding
