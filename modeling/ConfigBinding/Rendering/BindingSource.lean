import ConfigBinding.Binding.Backend
import ConfigBinding.Rendering.LoaderSource
import ConfigBinding.Rendering.MetadataSource

/-!
# The source of bindings

Every binding can be written as source under a line that names its root. Several bindings may share
a page, with an empty line between them.
-/

namespace ConfigBinding

def Binding.strokes (b : Binding) : List Stroke :=
  .line ("// Generated by configgen for `" ++ b.root ++ "`. Do not edit.") ::
    match b with
    | .store loader => loader.source
    | .property loader => loader.source
    | .metadata tree => tree.source

def Page.binding (page : Page) (b : Binding) : Page := page.separate.write b.strokes

/-- The source of bindings that share a page. -/
def sourceOfAll (bindings : List Binding) : String := (bindings.foldl Page.binding {}).text

def Binding.source (b : Binding) : String := sourceOfAll [b]

def Binding.fileName (b : Binding) : String :=
  Text.snakeCase b.root ++ "_" ++ b.backend.name ++ ".rs"

end ConfigBinding
