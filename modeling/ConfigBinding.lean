import ConfigBinding.Binding.Assignment
import ConfigBinding.Binding.Backend
import ConfigBinding.Binding.Metadata
import ConfigBinding.Binding.PropertyLoader
import ConfigBinding.Binding.StoreLoader
import ConfigBinding.Binding.TypedAccess
import ConfigBinding.CommandLine.Options
import ConfigBinding.CommandLine.Run
import ConfigBinding.Compile
import ConfigBinding.Decimal.Double
import ConfigBinding.Decimal.DoubleText
import ConfigBinding.Decimal.Numeral
import ConfigBinding.Decimal.Scaling
import ConfigBinding.Decimal.Shortest
import ConfigBinding.Diagnostic
import ConfigBinding.Disk
import ConfigBinding.FieldType
import ConfigBinding.Files.Basic
import ConfigBinding.Files.Path
import ConfigBinding.Glob.Pattern
import ConfigBinding.Glob.Search
import ConfigBinding.Host
import ConfigBinding.Json.Basic
import ConfigBinding.Json.Cursor
import ConfigBinding.Json.Fault
import ConfigBinding.Json.Lexeme
import ConfigBinding.Json.Printer
import ConfigBinding.Json.Record
import ConfigBinding.Json.Tree
import ConfigBinding.Json.Whole
import ConfigBinding.Layout.Basic
import ConfigBinding.Layout.Survey
import ConfigBinding.Main
import ConfigBinding.Proofs.Binding.Converters
import ConfigBinding.Proofs.Binding.Coverage
import ConfigBinding.Proofs.Binding.Defaults
import ConfigBinding.Proofs.Binding.Emission
import ConfigBinding.Proofs.Binding.Failure
import ConfigBinding.Proofs.Binding.Isolation
import ConfigBinding.Proofs.Binding.JoinKeys
import ConfigBinding.Proofs.Binding.LanguageKeys
import ConfigBinding.Proofs.Binding.Loading
import ConfigBinding.Proofs.Binding.Lookup
import ConfigBinding.Proofs.Binding.PresentValues
import ConfigBinding.Proofs.Binding.PropertyKeys
import ConfigBinding.Proofs.Binding.Reopening
import ConfigBinding.Proofs.Binding.Retention
import ConfigBinding.Proofs.Binding.Run
import ConfigBinding.Proofs.Binding.Steps
import ConfigBinding.Proofs.Binding.Sync
import ConfigBinding.Proofs.Binding.TextValues
import ConfigBinding.Proofs.Binding.TypeSafety
import ConfigBinding.Proofs.Binding.TypedAccess
import ConfigBinding.Proofs.CommandLine.Emitted
import ConfigBinding.Proofs.CommandLine.Output
import ConfigBinding.Proofs.CommandLine.Reading
import ConfigBinding.Proofs.Decimal.Nearest
import ConfigBinding.Proofs.Decimal.Numerals
import ConfigBinding.Proofs.Decimal.Scaling
import ConfigBinding.Proofs.Decimal.WholeDoubles
import ConfigBinding.Proofs.Files.Growth
import ConfigBinding.Proofs.Files.Siblings
import ConfigBinding.Proofs.Files.Writing
import ConfigBinding.Proofs.Json.Bounds
import ConfigBinding.Proofs.Json.Closing
import ConfigBinding.Proofs.Json.Depth
import ConfigBinding.Proofs.Json.Faithful
import ConfigBinding.Proofs.Json.Fitting
import ConfigBinding.Proofs.Json.Held
import ConfigBinding.Proofs.Json.NumberText
import ConfigBinding.Proofs.Json.Numeral
import ConfigBinding.Proofs.Json.OneLine
import ConfigBinding.Proofs.Json.Reading
import ConfigBinding.Proofs.Json.Records
import ConfigBinding.Proofs.Json.Scanned
import ConfigBinding.Proofs.Json.Scanning
import ConfigBinding.Proofs.Json.Spelling
import ConfigBinding.Proofs.Json.Trees
import ConfigBinding.Proofs.Layout.Fields
import ConfigBinding.Proofs.Layout.Isolation
import ConfigBinding.Proofs.Layout.MarkerOrder
import ConfigBinding.Proofs.Layout.Mirror
import ConfigBinding.Proofs.Layout.Parts
import ConfigBinding.Proofs.Layout.Reports
import ConfigBinding.Proofs.Layout.Siblings
import ConfigBinding.Proofs.Layout.Skipping
import ConfigBinding.Proofs.Layout.Soundness
import ConfigBinding.Proofs.Lists
import ConfigBinding.Proofs.Rendering.Containment
import ConfigBinding.Proofs.Rendering.Converters
import ConfigBinding.Proofs.Rendering.DeclaredTexts
import ConfigBinding.Proofs.Rendering.Identifiers
import ConfigBinding.Proofs.Rendering.Lexemes
import ConfigBinding.Proofs.Rendering.Literals
import ConfigBinding.Proofs.Rendering.Pages
import ConfigBinding.Proofs.Rendering.Places
import ConfigBinding.Proofs.Rendering.Scopes
import ConfigBinding.Proofs.Results
import ConfigBinding.Proofs.Schema.Defaults
import ConfigBinding.Proofs.Schema.FiniteDefaults
import ConfigBinding.Proofs.Schema.FirstValue
import ConfigBinding.Proofs.Schema.Fitting
import ConfigBinding.Proofs.Schema.Reading
import ConfigBinding.Proofs.Schema.Writing
import ConfigBinding.Proofs.Store.Changes
import ConfigBinding.Proofs.Store.Entries
import ConfigBinding.Proofs.Store.Reloading
import ConfigBinding.Proofs.Store.Saved
import ConfigBinding.Proofs.Store.Settings
import ConfigBinding.Proofs.Text.Names
import ConfigBinding.Proofs.Text.SnakeCase
import ConfigBinding.Proofs.Types.Fit
import ConfigBinding.Proofs.Types.Flat
import ConfigBinding.Proofs.Types.TextForms
import ConfigBinding.Proofs.Types.Texts
import ConfigBinding.Proofs.Types.ValueJson
import ConfigBinding.Properties
import ConfigBinding.Rendering.Assignment
import ConfigBinding.Rendering.BindingSource
import ConfigBinding.Rendering.Literal
import ConfigBinding.Rendering.LoaderSource
import ConfigBinding.Rendering.MetadataSource
import ConfigBinding.Rendering.Page
import ConfigBinding.Schema.Declaration
import ConfigBinding.Schema.DeclarationJson
import ConfigBinding.Schema.Default
import ConfigBinding.Schema.Load
import ConfigBinding.Schema.Resolution
import ConfigBinding.Store.Basic
import ConfigBinding.Store.Dictionary
import ConfigBinding.Store.File
import ConfigBinding.Text.Case
import ConfigBinding.Text.Character
import ConfigBinding.Text.CharacterTable
import ConfigBinding.Text.Identifier
import ConfigBinding.Text.Quoted
import ConfigBinding.Value
