import ConfigBinding.Json.Cursor
import ConfigBinding.Json.Printer
import ConfigBinding.Schema.Declaration

/-!
# Declarations as JSON

How declarations are written as JSON and read from it, form by form. Records are written with their
fields in declared order; an absent package or doc is left out, everything else is written even
where reading would supply it. What only a running host has is not written.

Types and members occur inside themselves. Inside a value they are always read from a whole JSON
value, so the recursion is bounded by how many values such a value can hold inside each other
(`heldLevels`).
-/

namespace ConfigBinding

variable {σ ε : Type}

/-! ## Parts -/

namespace ClassKind

def name : ClassKind → String
  | .standard => "class"
  | .interface => "interface"
  | .enumeration => "enum"
  | .annotationType => "annotation"

def variants : List (String × ClassKind) :=
  [.standard, .interface, .enumeration, .annotationType].map fun kind => (kind.name, kind)

end ClassKind

namespace Modifiers

def toJson (m : Modifiers) : Json :=
  .object
    [("public", .bool m.isPublic), ("static", .bool m.isStatic), ("final", .bool m.isFinal),
      ("abstract", .bool m.isAbstract)]

/-- Reads modifiers; those not given do not hold. -/
def read [Source σ ε] : σ → Except ε Modifiers :=
  Source.record "struct Modifiers"
    (Modifiers.mk <$> .optional "public" Source.bool false
      <*> .optional "static" Source.bool false
      <*> .optional "final" Source.bool false
      <*> .optional "abstract" Source.bool false)

end Modifiers

namespace Literal

variable {α : Type}

def toJson (item : α → Json) : Literal α → Json
  | .one value => item value
  | .many values => .array (values.map item)

def ofJson (item? : Json → Option α) (json : Json) : Except Mismatch (Literal α) :=
  match item? json with
  | some value => .ok (.one value)
  | none =>
    match json with
    | .array items =>
      match items.mapM item? with
      | some values => .ok (.many values)
      | none => .error (.noVariant "Literal")
    | _ => .error (.noVariant "Literal")

end Literal

namespace Json

def bool? : Json → Option Bool
  | .bool value => some value
  | _ => none

/-- A whole number within 32 bits. -/
def int32? : Json → Option Int32
  | .number (.whole value) => ConfigBinding.int32? value
  | _ => none

/-- Any number as a double. -/
def double? : Json → Option Double
  | .number (.whole value) => some (Double.ofInt value)
  | .number (.real value) => some value
  | _ => none

def string? : Json → Option String
  | .string value => some value
  | _ => none

def double (json : Json) : Except Mismatch Double :=
  match json.double? with
  | some value => .ok value
  | none => json.refuse "f64"

end Json

/-! ## Markers -/

namespace Marker

def tag : String := "marker"

def toJson : Marker → Json
  | .config languagePrefix propertyPrefix =>
    .object
      [(tag, .string "config"), ("language_prefix", .string languagePrefix),
        ("property_prefix", .string propertyPrefix)]
  | .exclude => .object [(tag, .string "exclude")]
  | .requiresRestart restart =>
    .object
      [(tag, .string "requires_restart"), ("world", .bool restart.world), ("mc", .bool restart.mc)]
  | .range min max =>
    .object [(tag, .string "range"), ("min", .number (.real min)), ("max", .number (.real max))]
  | .onSync => .object [(tag, .string "on_sync")]
  | .defaultBoolean value =>
    .object [(tag, .string "default_boolean"), ("value", value.toJson .bool)]
  | .defaultInt value =>
    .object
      [(tag, .string "default_int"), ("value", value.toJson fun int => .number (.whole int.toInt))]
  | .defaultDouble value =>
    .object
      [(tag, .string "default_double"),
        ("value", value.toJson fun double => .number (.real double))]
  | .defaultString value =>
    .object [(tag, .string "default_string"), ("value", value.toJson .string)]

def readLiteral {α : Type} (what : String) (item? : Json → Option α)
    (marker : Literal α → Marker) : Json → Except Mismatch Marker :=
  Source.record what (marker <$> .required "value" (Literal.ofJson item?))

/-- The markers by tag. A range reaches over all 32-bit integers unless it says otherwise. -/
def variants : List (String × (Json → Except Mismatch Marker)) :=
  [("config",
      Source.record "struct ConfigMarker"
        (Marker.config <$> .optional "language_prefix" Source.string ""
          <*> .optional "property_prefix" Source.string "")),
    ("exclude", Json.noFields .exclude),
    ("requires_restart",
      Source.record "struct RequiresRestart"
        ((fun world mc => Marker.requiresRestart ⟨world, mc⟩)
          <$> .optional "world" Source.bool true
          <*> .optional "mc" Source.bool true)),
    ("range",
      Source.record "struct Range"
        (Marker.range <$> .optional "min" Json.double (Double.ofInt Int32.minValue.toInt)
          <*> .optional "max" Json.double (Double.ofInt Int32.maxValue.toInt))),
    ("on_sync", Json.noFields .onSync),
    ("default_boolean", readLiteral "struct DefaultBoolean" Json.bool? .defaultBoolean),
    ("default_int", readLiteral "struct DefaultInt" Json.int32? .defaultInt),
    ("default_double", readLiteral "struct DefaultDouble" Json.double? .defaultDouble),
    ("default_string", readLiteral "struct DefaultString" Json.string? .defaultString)]

def read [Source σ ε] : σ → Except ε Marker :=
  Source.tagged tag "internally tagged enum Marker" variants

end Marker

/-! ## Types -/

namespace DeclaredType

def tag : String := "kind"

mutual

def toJson : DeclaredType → Json
  | .primitive name => .object [(tag, .string "primitive"), ("name", .string name)]
  | .array component => .object [(tag, .string "array"), ("component", component.toJson)]
  | .declared name args constructors =>
    .object
      [(tag, .string "declared"), ("name", .string name), ("args", .array (listToJson args)),
        ("constructors", .array (listsToJson constructors))]
  | .other name => .object [(tag, .string "other"), ("name", .string name)]

def listToJson : List DeclaredType → List Json
  | [] => []
  | type :: rest => type.toJson :: listToJson rest

def listsToJson : List (List DeclaredType) → List Json
  | [] => []
  | types :: rest => .array (listToJson types) :: listsToJson rest

end

/-- The types by tag, given how types inside them are read. -/
def variants (inner : Json → Except Mismatch DeclaredType) :
    List (String × (Json → Except Mismatch DeclaredType)) :=
  [("primitive",
      Source.record "struct variant TypeRef::Primitive"
        (DeclaredType.primitive <$> .required "name" Source.string)),
    ("array",
      Source.record "struct variant TypeRef::Array"
        (DeclaredType.array <$> .required "component" inner)),
    ("declared",
      Source.record "struct variant TypeRef::Declared"
        (DeclaredType.declared <$> .required "name" Source.string
          <*> .optional "args" (Source.list inner) []
          <*> .optional "constructors" (Source.list (Source.list inner)) [])),
    ("other",
      Source.record "struct variant TypeRef::Other"
        (DeclaredType.other <$> .required "name" Source.string))]

def what : String := "internally tagged enum TypeRef"

/-- Reads a type that nests no deeper than so many levels from a JSON value. -/
def ofJson : Nat → Json → Except Mismatch DeclaredType
  | 0, json => json.refuse what
  | levels + 1, json => Source.tagged tag what (variants (ofJson levels)) json

def read [Source σ ε] : σ → Except ε DeclaredType :=
  Source.tagged tag what (variants (ofJson heldLevels))

end DeclaredType

/-! ## Classes and their members -/

/-- An entry of an object that is left out when there is nothing to write. -/
def optionalEntry (name : String) (value : Option String) : List (String × Json) :=
  match value with
  | some text => [(name, .string text)]
  | none => []

def FieldDecl.entries (f : FieldDecl) : List (String × Json) :=
  [("name", .string f.name), ("modifiers", f.modifiers.toJson)] ++ optionalEntry "doc" f.doc ++
    [("markers", .array (f.markers.map Marker.toJson)), ("type", f.type.toJson)]

def MethodDecl.entries (m : MethodDecl) : List (String × Json) :=
  [("name", .string m.name), ("modifiers", m.modifiers.toJson),
    ("markers", .array (m.markers.map Marker.toJson))]

def ClassMember.tag : String := "member"

mutual

def ClassDecl.entries : ClassDecl → List (String × Json)
  | { name, modifiers, markers, package, kind, doc, members } =>
    [("name", .string name)] ++ optionalEntry "package" package ++
      [("kind", .string kind.name), ("modifiers", modifiers.toJson)] ++ optionalEntry "doc" doc ++
      [("markers", .array (markers.map Marker.toJson)),
        ("members", .array (ClassMember.listToJson members))]

def ClassMember.toJson : ClassMember → Json
  | .nested declaration => .object ((ClassMember.tag, .string "class") :: declaration.entries)
  | .field declaration => .object ((ClassMember.tag, .string "field") :: declaration.entries)
  | .method declaration => .object ((ClassMember.tag, .string "method") :: declaration.entries)

def ClassMember.listToJson : List ClassMember → List Json
  | [] => []
  | member :: rest => member.toJson :: ClassMember.listToJson rest

end

def ClassDecl.toJson (c : ClassDecl) : Json := .object c.entries

/-- Reads modifiers, which need not be given. -/
def Modifiers.field [Source σ ε] : Record σ ε Modifiers :=
  .optional "modifiers" Modifiers.read {}

/-- Reads a doc, which need not be given and may be null. -/
def docField [Source σ ε] : Record σ ε (Option String) :=
  .optional "doc" (Source.nullable Source.string) none

def Marker.field [Source σ ε] : Record σ ε (List Marker) :=
  .optional "markers" (Source.list Marker.read) []

def FieldDecl.read [Source σ ε] : σ → Except ε FieldDecl :=
  let make (name : String) (modifiers : Modifiers) (doc : Option String) (markers : List Marker)
      (type : DeclaredType) : FieldDecl :=
    { name, modifiers, markers, doc, type, setter := none }
  Source.record "struct FieldDecl"
    (make <$> .required "name" Source.string <*> Modifiers.field <*> docField <*> Marker.field
      <*> .required "type" DeclaredType.read)

def MethodDecl.read [Source σ ε] : σ → Except ε MethodDecl :=
  let make (name : String) (modifiers : Modifiers) (markers : List Marker) : MethodDecl :=
    { name, modifiers, markers, callable := false }
  Source.record "struct MethodDecl"
    (make <$> .required "name" Source.string <*> Modifiers.field <*> Marker.field)

/-- Reads a class, given how its members are read. -/
def ClassDecl.readWith [Source σ ε] (member : σ → Except ε ClassMember) : σ → Except ε ClassDecl :=
  let make (name : String) (package : Option String) (kind : ClassKind) (modifiers : Modifiers)
      (doc : Option String) (markers : List Marker) (members : List ClassMember) : ClassDecl :=
    { name, modifiers, markers, package, kind, doc, members }
  Source.record "struct ClassDecl"
    (make <$> .required "name" Source.string
      <*> .optional "package" (Source.nullable Source.string) none
      <*> .optional "kind" (Source.choice ClassKind.variants) .standard
      <*> Modifiers.field <*> docField <*> Marker.field
      <*> .optional "members" (Source.list member) [])

namespace ClassMember

def what : String := "internally tagged enum Member"

def variants (inner : Json → Except Mismatch ClassMember) :
    List (String × (Json → Except Mismatch ClassMember)) :=
  [("class", fun json => ClassMember.nested <$> ClassDecl.readWith inner json),
    ("field", fun json => ClassMember.field <$> FieldDecl.read json),
    ("method", fun json => ClassMember.method <$> MethodDecl.read json)]

def ofJson : Nat → Json → Except Mismatch ClassMember
  | 0, json => json.refuse what
  | levels + 1, json => Source.tagged tag what (variants (ofJson levels)) json

def read [Source σ ε] : σ → Except ε ClassMember :=
  Source.tagged tag what (variants (ofJson heldLevels))

end ClassMember

def ClassDecl.read [Source σ ε] : σ → Except ε ClassDecl := ClassDecl.readWith ClassMember.read

/-! ## Documents -/

def Document.toJson (document : Document) : Json :=
  .object [("declarations", .array (document.declarations.map ClassDecl.toJson))]

def Document.read [Source σ ε] : σ → Except ε Document :=
  Source.record "struct SchemaDocument"
    (Document.mk <$> .optional "declarations" (Source.list ClassDecl.read) [])

end ConfigBinding
