import ConfigBinding.Binding.Assignment
import ConfigBinding.Layout.Basic

/-!
# Metadata

A tree of the categories and properties of a layout that can be looked through and written to at any
time.

* `Converter`, `Converters.intern`: how a collection is built from its representation, shared by all
  properties of one type;
* `Metadata.ofLayout`, `Metadata.find?`, `Metadata.property?`;
* `Property.set`: writes a value that has, or can be widened to, the representation.
-/

namespace ConfigBinding

/-- Builds values of a type from their representation. -/
structure Converter where
  id : Nat
  representation : FieldType
  target : FieldType
  deriving DecidableEq

namespace Converter

def name (c : Converter) : String := "Property" ++ toString c.id

def convert (c : Converter) (raw : Value) : Value := c.target.realize raw

end Converter

/-- Converters in the order of their numbers. -/
abbrev Converters := List Converter

/-- The converter for a representation and a type, made if there is none yet. -/
def Converters.intern (all : Converters) (representation target : FieldType) :
    Converter × Converters :=
  match all.find? fun c => c.representation = representation ∧ c.target = target with
  | some found => (found, all)
  | none =>
    let made : Converter := ⟨all.length, representation, target⟩
    (made, all ++ [made])

structure Property where
  name : String
  description : Option String
  /-- The handle of the category. -/
  owner : String
  representation : FieldType
  type : FieldType
  default : Value
  /-- Only for collections. -/
  converter : Option Converter
  /-- The declared names from the root down to the field. -/
  target : List String
  setter : Option Setter

structure MetaCategory where
  name : String
  handle : String
  description : Option String
  properties : List Property
  children : List MetaCategory

structure Metadata where
  root : String
  categories : List MetaCategory
  converters : Converters

/-! ## From layouts -/

/-- The converter that a type needs: only collections do. -/
def Converters.internFor (all : Converters) (type : FieldType) : Option Converter × Converters :=
  match type with
  | .collection _ _ _ =>
    let (converter, all) := all.intern type.representation type
    (some converter, all)
  | _ => (none, all)

def Field.properties (path : List String) (all : Converters) :
    List Field → List Property × Converters
  | [] => ([], all)
  | f :: rest =>
    match f.resolved? with
    | none => Field.properties path all rest
    | some (type, default) =>
      let (converter, all) := all.internFor type
      let (others, all) := Field.properties path all rest
      let property : Property :=
        { name := f.name, description := f.description, owner := f.owner
          representation := type.representation, type, default, converter
          target := path ++ [f.name], setter := f.setter }
      (property :: others, all)

mutual

def Category.metadata (above : List String) (all : Converters) :
    Category → MetaCategory × Converters
  | c@{ children, .. } =>
    let path := above ++ [c.ident]
    let (inner, all) := Category.metadataAll path all children
    let (properties, all) := Field.properties path all c.fields
    (⟨c.name, c.handle, c.description, properties, inner⟩, all)

def Category.metadataAll (above : List String) (all : Converters) :
    List Category → List MetaCategory × Converters
  | [] => ([], all)
  | c :: rest =>
    let (first, all) := c.metadata above all
    let (others, all) := Category.metadataAll above all rest
    (first :: others, all)

end

def Metadata.ofLayout (l : Layout) : Metadata :=
  let (categories, converters) := Category.metadataAll [] [] l.categories
  ⟨l.root, categories, converters⟩

/-! ## Looking up -/

mutual

/-- The first of a category and those inside it that has a name. -/
def MetaCategory.find? (name : String) : MetaCategory → Option MetaCategory
  | c@{ name := own, children, .. } =>
    if own = name then some c else MetaCategory.findAmong? name children

def MetaCategory.findAmong? (name : String) : List MetaCategory → Option MetaCategory
  | [] => none
  | c :: rest =>
    match c.find? name with
    | some found => some found
    | none => MetaCategory.findAmong? name rest

end

namespace Metadata

def find? (m : Metadata) (name : String) : Option MetaCategory :=
  MetaCategory.findAmong? name m.categories

def property? (m : Metadata) (category name : String) : Option Property :=
  (m.find? category).bind fun c => c.properties.find? fun p => p.name = name

end Metadata

/-! ## Writing -/

namespace Property

def convert (p : Property) (raw : Value) : Value :=
  match p.converter with
  | some converter => converter.convert raw
  | none => raw

def set (p : Property) (value : Value) : Run Unit :=
  let site := p.owner ++ "." ++ p.name
  match p.setter with
  | none => .fail () (.unbound site)
  | some setter =>
    match value.fit? p.representation with
    | none => .fail () (.value site ⟨p.representation.text, value.describe⟩)
    | some raw => call (some setter) site (p.convert raw) ()

end Property

end ConfigBinding
