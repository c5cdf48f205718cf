import ConfigBinding.Text.Case

/-!
# Identifiers of generated code

How declared names appear in generated code: in snake case, marked as raw where that is a keyword of
the generated language. Three keywords may not even be raw; they get an underscore instead.
-/

namespace ConfigBinding.Text

/-- The keywords that may be used as raw identifiers. -/
def keywords : List String :=
  ["abstract", "as", "async", "await", "become", "box", "break", "const", "continue", "do", "dyn",
    "else", "enum", "extern", "false", "final", "fn", "for", "gen", "if", "impl", "in", "let",
    "loop", "macro", "match", "mod", "move", "mut", "override", "priv", "pub", "ref", "return",
    "static", "struct", "trait", "true", "try", "type", "typeof", "unsafe", "unsized", "use",
    "virtual", "where", "while", "yield"]

/-- The keywords that may not be used even as raw identifiers. -/
def pathKeywords : List String := ["self", "super", "crate"]

def identifier (name : String) : String :=
  let snake := snakeCase name
  if pathKeywords.contains snake then snake ++ "_"
  else if keywords.contains snake then "r#" ++ snake
  else snake

end ConfigBinding.Text
