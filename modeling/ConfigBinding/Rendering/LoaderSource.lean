import ConfigBinding.Binding.PropertyLoader
import ConfigBinding.Binding.StoreLoader
import ConfigBinding.Rendering.Assignment
import ConfigBinding.Rendering.Literal

/-!
# The source of loaders

Loaders as source that binds the fields of the host in the same order and from the same places.
-/

namespace ConfigBinding

open Text (quoted)

def restartCalls (restart : Restart) : String :=
  (if restart.world then ".set_requires_world_restart(true)" else "") ++
  (if restart.mc then ".set_requires_mc_restart(true)" else "")

def languageCall : Option String → String
  | some key => ".set_language_key(" ++ quoted key ++ ")"
  | none => ""

def FieldRange.calls : FieldRange → String
  | .int min max =>
    ".set_min_value(" ++ intLiteral min ++ ").set_max_value(" ++ intLiteral max ++ ")"
  | .double min max =>
    ".set_min_value(" ++ doubleLiteral min ++ ").set_max_value(" ++ doubleLiteral max ++ ")"

def StoreField.source (field : StoreField) : List Stroke :=
  let description :=
    match field.description with
    | some text => "Some(" ++ quoted text ++ ")"
    | none => "None"
  let setting :=
    "config.get(" ++ quoted field.category ++ ", " ++ quoted field.key ++ ", &Value::from(" ++
      field.default.literal field.type ++ "), " ++ description ++ ")"
  assignment "target" field.target field.type
    (setting ++ restartCalls field.restart ++ (field.range.map FieldRange.calls).getD "" ++
      languageCall field.languageKey ++ "." ++ field.accessor.method ++ "()")

def Decoration.source (d : Decoration) : List Stroke :=
  let comment :=
    match d.comment with
    | some text => ".set_comment(" ++ quoted text ++ ")"
    | none => ""
  [.line ("config.category(" ++ quoted d.name ++ ")" ++ languageCall d.languageKey ++
    restartCalls d.restart ++ comment ++ ";")]

def StoreStep.source : StoreStep → List Stroke
  | .field bound => bound.source
  | .category decoration => decoration.source

def StoreLoader.source (loader : StoreLoader) : List Stroke :=
  let root := loader.root
  let hook : List Stroke :=
    match loader.onSync with
    | some hook => [.line (root ++ "::" ++ Text.identifier hook.name ++ "();")]
    | none => []
  [.line "use std::path::Path;",
    .line "",
    .line "use configgen::error::BindError;",
    .line "use configgen::store::\x7bFileStore, StructuredStore\x7d;",
    .line "use configgen::value::Value;",
    .line "",
    .line ("pub struct " ++ root ++ "Loader;"),
    .line ""] ++
  block ("impl " ++ root ++ "Loader \x7b")
    (block
      ("pub fn sync<S: StructuredStore + ?Sized>(config: &mut S, target: &mut " ++ root ++
        ") -> Result<(), BindError> \x7b")
      (loader.steps.flatMap StoreStep.source ++ hook ++
        [.line "config.save()?;", .line "Ok(())"])
      "\x7d" ++
    [.line ""] ++
    block
      ("pub fn init<S: FileStore>(path: &Path, target: &mut " ++ root ++
        ") -> Result<S, BindError> \x7b")
      [.line "let mut config = S::open(path);",
        .line "config.load()?;",
        .line "Self::sync(&mut config, target)?;",
        .line "Ok(config)"]
      "\x7d")
    "\x7d"

def PropertyField.source (field : PropertyField) : List Stroke :=
  assignment "target" field.target field.type
    ("store::" ++ field.accessor.method ++ "(source, " ++ quoted field.key ++ ", " ++
      field.default.literal field.type ++ ")?")

def PropertyLoader.source (loader : PropertyLoader) : List Stroke :=
  let root := loader.root
  [.line "use configgen::error::BindError;",
    .line "use configgen::store::\x7bself, PropertySource\x7d;",
    .line "",
    .line ("pub struct " ++ root ++ "Properties;"),
    .line ""] ++
  block ("impl " ++ root ++ "Properties \x7b")
    (block
      ("pub fn init<S: PropertySource + ?Sized>(source: &S, target: &mut " ++ root ++
        ") -> Result<(), BindError> \x7b")
      (loader.fields.flatMap PropertyField.source ++ [.line "Ok(())"])
      "\x7d")
    "\x7d"

end ConfigBinding
