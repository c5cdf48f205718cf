import ConfigBinding.Binding.Metadata
import ConfigBinding.Rendering.Assignment
import ConfigBinding.Rendering.Literal

/-!
# The source of metadata

Metadata as source that builds the same tree, with setters for the fields of the host.
-/

namespace ConfigBinding

open Text (quoted)

def Converter.variable (c : Converter) : String := Text.lowercase c.name

def Converter.source (c : Converter) : List Stroke :=
  [.line ("let " ++ c.variable ++ " = converters.intern(" ++ c.representation.literal ++ ", " ++
    c.target.literal ++ ");")]

/-- A list of several lines in brackets, or of none. -/
def listSource (name : String) (items : List Stroke) : List Stroke :=
  if items.isEmpty then [.line (name ++ ": vec![],")]
  else block (name ++ ": vec![") items "],"

def Property.source (p : Property) : List Stroke :=
  let converter :=
    match p.converter with
    | some c => "converter: Some(Arc::clone(&" ++ c.variable ++ ")),"
    | none => "converter: None,"
  let target := p.target.map fun name => quoted name ++ ".to_string()"
  let read :=
    match p.type.component? with
    | some component => "Vec::<" ++ component.itemName ++ ">::from_value(value)?"
    | none => "FromValue::from_value(value)?"
  block "Property \x7b"
    ([.line ("name: " ++ quoted p.name ++ ".to_string(),"),
      .line ("description: " ++ optionalLiteral p.description ++ ","),
      .line ("owner: " ++ quoted p.owner ++ ".to_string(),"),
      .line ("representation: " ++ p.representation.literal ++ ","),
      .line ("ty: " ++ p.type.literal ++ ","),
      .line ("default_value: Value::from(" ++ p.default.literal p.type ++ "),"),
      .line converter,
      .line ("target: vec![" ++ String.intercalate ", " target ++ "],")] ++
    block "setter: Some(Setter::field(target, |config, value| \x7b"
      (assignment "config" p.target p.type read ++ [.line "Ok(())"])
      "\x7d)),")
    "\x7d,"

mutual

def MetaCategory.source : MetaCategory → List Stroke
  | c@{ children, .. } =>
    block "MetaCategory \x7b"
      ([.line ("name: " ++ quoted c.name ++ ".to_string(),"),
        .line ("handle: " ++ quoted c.handle ++ ".to_string(),"),
        .line ("description: " ++ optionalLiteral c.description ++ ",")] ++
      listSource "properties" (c.properties.flatMap Property.source) ++
      listSource "children" (MetaCategory.sourceAll children))
      "\x7d,"

def MetaCategory.sourceAll : List MetaCategory → List Stroke
  | [] => []
  | c :: rest => c.source ++ MetaCategory.sourceAll rest

end

def Metadata.source (m : Metadata) : List Stroke :=
  [.line "use std::sync::\x7bArc, Mutex\x7d;",
    .line "",
    .line "use configgen::backend::\x7bConverterArena, MetaCategory, Metadata, Property\x7d;",
    .line
      (if m.converters.isEmpty then "use configgen::ir::Ty;"
      else "use configgen::ir::\x7bConstruction, Ty\x7d;"),
    .line "use configgen::value::\x7bFromValue, Setter, Value\x7d;",
    .line ""] ++
  block
    ("pub fn " ++ Text.snakeCase m.root ++ "_metadata(target: &Arc<Mutex<" ++ m.root ++
      ">>) -> Metadata \x7b")
    ([.line "let mut converters = ConverterArena::new();"] ++
      m.converters.flatMap Converter.source ++
      block "let categories = vec![" (MetaCategory.sourceAll m.categories) "];" ++
      [.line ("Metadata \x7b root: " ++ quoted m.root ++
        ".to_string(), categories, converters \x7d")])
    "\x7d"

end ConfigBinding
