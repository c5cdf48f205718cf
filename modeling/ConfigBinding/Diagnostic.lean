import ConfigBinding.Json.Cursor
import ConfigBinding.Json.Printer

/-!
# Diagnostics

What is reported about the declarations of a root. A diagnostic is shown as one line and a further
line for each note, with colors if wanted; a list of diagnostics is also written as JSON and read
from it.
-/

namespace ConfigBinding

inductive Severity where
  | error
  | warning
  deriving DecidableEq

inductive DiagnosticClass where
  /-- Visibility and mutability of a declaration. -/
  | structural
  /-- Unusable types, whose fields are dropped. -/
  | type
  /-- Defaults that do not fit their type. -/
  | defaultShape
  /-- What keeps a root from being compiled at all. -/
  | schema
  deriving DecidableEq

/-- A report about a declaration, which is named by its site. -/
structure Diagnostic where
  severity : Severity
  about : DiagnosticClass
  site : String
  message : String
  notes : List String
  deriving DecidableEq

namespace Severity

def name : Severity → String
  | .error => "error"
  | .warning => "warning"

def variants : List (String × Severity) :=
  [.error, .warning].map fun severity => (severity.name, severity)

end Severity

namespace DiagnosticClass

def name : DiagnosticClass → String
  | .structural => "structural"
  | .type => "type"
  | .defaultShape => "default-shape"
  | .schema => "schema"

def variants : List (String × DiagnosticClass) :=
  [.structural, .type, .defaultShape, .schema].map fun about => (about.name, about)

end DiagnosticClass

/-! ## Colored text -/

def styleEnd : String := "\x1b[0m"

/-- A text in a style given by its terminal code. The style is taken up again wherever the text
    itself ends styles. -/
def styled (code text : String) : String :=
  let start := "\x1b[" ++ code ++ "m"
  start ++ String.intercalate (styleEnd ++ start) (text.splitOn styleEnd) ++ styleEnd

def bold (text : String) : String := styled "1" text

/-- Bold text in the color of a severity: red for errors, yellow for warnings. -/
def Severity.emphasize (severity : Severity) (text : String) : String :=
  match severity with
  | .error => styled "1;31" text
  | .warning => styled "1;33" text

/-! ## Diagnostics -/

namespace Diagnostic

def error (about : DiagnosticClass) (site message : String) (notes : List String) : Diagnostic :=
  ⟨.error, about, site, message, notes⟩

def warning (about : DiagnosticClass) (site message : String) (notes : List String) : Diagnostic :=
  ⟨.warning, about, site, message, notes⟩

/-- A diagnostic as text: one line, and an indented line for each note. -/
def render (colored : Bool) (d : Diagnostic) : String :=
  let head := d.severity.name ++ "[" ++ d.about.name ++ "]"
  let head := if colored then d.severity.emphasize head else head
  let site := if colored then bold d.site else d.site
  head ++ " " ++ site ++ ": " ++ d.message ++
    String.join (d.notes.map fun note => "\n  = note: " ++ note)

def isError (d : Diagnostic) : Bool := d.severity == .error

/-- Whether a diagnostic keeps its root from being compiled. -/
def isFatal (d : Diagnostic) : Bool := d.isError && d.about == .schema

/-- A diagnostic as JSON; without notes they are left out. -/
def toJson (d : Diagnostic) : Json :=
  .object
    ([("severity", .string d.severity.name), ("class", .string d.about.name),
        ("site", .string d.site), ("message", .string d.message)] ++
      if d.notes.isEmpty then [] else [("notes", .array (d.notes.map .string))])

def read {σ ε : Type} [Source σ ε] : σ → Except ε Diagnostic :=
  Source.record "struct Diagnostic"
    (Diagnostic.mk <$> .required "severity" (Source.choice Severity.variants)
      <*> .required "class" (Source.choice DiagnosticClass.variants)
      <*> .required "site" Source.string
      <*> .required "message" Source.string
      <*> .optional "notes" (Source.list Source.string) [])

end Diagnostic

/-- Everything reported about a root, in order. -/
abbrev Diagnostics := List Diagnostic

namespace Diagnostics

def errorCount (ds : Diagnostics) : Nat := ds.countP Diagnostic.isError

def hasErrors (ds : Diagnostics) : Bool := 0 < errorCount ds

def isFatal (ds : Diagnostics) : Bool := ds.any Diagnostic.isFatal

def render (colored : Bool) (ds : Diagnostics) : String :=
  String.intercalate "\n" (ds.map (Diagnostic.render colored))

def toJson (ds : Diagnostics) : Json := .array (ds.map Diagnostic.toJson)

def read {σ ε : Type} [Source σ ε] : σ → Except ε Diagnostics := Source.list Diagnostic.read

end Diagnostics

end ConfigBinding
