import ConfigBinding.FieldType
import ConfigBinding.Store.Dictionary

/-!
# Stores

A store keeps the settings of categories. A property has the value that was stored and what is known
about it: its default, a comment, bounds and flags. Categories and properties stay in the order in
which they were first named.

* `StoreProperty.read`: the stored value if it fits, else the default if that fits, else zero;
* `Store.updateProperty`, `Store.updateCategory`: change an entry, adding it first if it is new.
-/

namespace ConfigBinding

structure StoreProperty where
  value : Option Value := none
  comment : Option String := none
  default : Option Value := none
  world : Bool := false
  mc : Bool := false
  min : Option Value := none
  max : Option Value := none
  languageKey : Option String := none

structure StoreCategory where
  comment : Option String := none
  languageKey : Option String := none
  world : Bool := false
  mc : Bool := false
  properties : List (String × StoreProperty) := []

/-- The settings of a configuration, and the file they belong to, if any. -/
structure Store where
  path : Option String := none
  categories : List (String × StoreCategory) := []

/-- A value in the shape of a type, if it conforms or can be widened. -/
def Value.fit? (value : Value) (type : FieldType) : Option Value :=
  if value.conforms type then some value else value.widen? type

namespace StoreProperty

/-- The value that a reading operation finds: the first of the stored value and the default that
    fits, or else the zero value. -/
def read (p : StoreProperty) (accessor : Accessor) : Value :=
  let fitting (candidate : Option Value) : Option Value :=
    candidate.bind fun value => value.fit? accessor.type
  ((fitting p.value <|> fitting p.default) <|> accessor.type.zero?).getD (.array [])

/-- Gives a property its default, which is also its value if it has none, and a comment if there is
    one. -/
def withDefault (p : StoreProperty) (default : Value) (comment : Option String) : StoreProperty :=
  { p with
    value := p.value <|> some default
    default := some default
    comment := comment <|> p.comment }

end StoreProperty

namespace Store

def category? (s : Store) (name : String) : Option StoreCategory := s.categories.lookup name

def property? (s : Store) (category key : String) : Option StoreProperty :=
  (s.category? category).bind fun c => c.properties.lookup key

def updateCategory (s : Store) (name : String) (change : StoreCategory → StoreCategory) : Store :=
  { s with categories := Dictionary.update s.categories name {} change }

def updateProperty (s : Store) (category key : String) (change : StoreProperty → StoreProperty) :
    Store :=
  s.updateCategory category fun c =>
    { c with properties := Dictionary.update c.properties key {} change }

def set (s : Store) (category key : String) (value : Value) : Store :=
  s.updateProperty category key fun p => { p with value := some value }

end Store

end ConfigBinding
