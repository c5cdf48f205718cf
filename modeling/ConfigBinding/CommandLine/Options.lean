import ConfigBinding.Binding.Backend

/-!
# Command lines

A command line names a command and gives its options. Options are read one after the other, and the
first that asks for help or is not understood settles the matter.

* `Occurrence`, `readOptions`: the options given for a command, by the forms of that command;
* `Request.ofArguments`: what a command line asks for.
-/

namespace ConfigBinding.CommandLine

/-! ## Options -/

inductive Arity where
  | none
  | one
  | many
  deriving DecidableEq

/-- A form of option. Only one that takes many values may be given repeatedly. -/
structure OptionForm where
  name : String
  letter : Option Char
  arity : Arity
  accepts : String → Bool

structure Occurrence where
  name : String
  values : List String
  deriving DecidableEq

/-- Why reading options ends early. -/
inductive Interruption where
  | help
  | misuse
  deriving DecidableEq

structure Progress where
  complete : List Occurrence
  /-- The option that was named last, which may take further values. -/
  current : Option (OptionForm × List String)

namespace Progress

def start : Progress := ⟨[], none⟩

/-- Adds an option that is complete, if it has values as it should and may be given again. -/
def add (p : Progress) (form : OptionForm) (values : List String) : Except Interruption Progress :=
  let counted :=
    match form.arity with
    | .none => values.isEmpty
    | .one => values.length == 1
    | .many => !values.isEmpty
  let repeated := form.arity ≠ .many && p.complete.any fun given => given.name = form.name
  if counted && !repeated && values.all form.accepts then
    .ok { p with complete := p.complete ++ [⟨form.name, values⟩] }
  else .error .misuse

/-- Completes the option that was named last. -/
def settle (p : Progress) : Except Interruption Progress :=
  match p.current with
  | none => .ok p
  | some (form, values) => { p with current := none }.add form values

/-- Goes on with a named option, which may have a value attached. An attached value is the only one.
    -/
def name (p : Progress) (form : OptionForm) (attached : Option String) :
    Except Interruption Progress := do
  let p ← p.settle
  match form.arity, attached with
  | .none, none => p.add form []
  | .none, some _ => .error .misuse
  | _, some value => p.add form [value]
  | _, none => .ok { p with current := some (form, []) }

/-- Goes on with a text that names no option. -/
def value (p : Progress) (text : String) : Except Interruption Progress :=
  match p.current with
  | some (form, values) =>
    if form.arity = .many || values.isEmpty then
      .ok { p with current := some (form, values ++ [text]) }
    else .error .misuse
  | none => .error .misuse

def help (p : Progress) : Except Interruption Progress := do
  let _ ← p.settle
  .error .help

/-- Goes on with letters that follow a single dash. The value of an option may be attached to its
    letter, with or without `=`. -/
def letters (forms : List OptionForm) (p : Progress) : List Char → Except Interruption Progress
  | [] => .ok p
  | c :: rest =>
    if c = 'h' then p.help
    else
      match forms.find? fun form => form.letter = some c with
      | none => .error .misuse
      | some form =>
        if form.arity = .none then do letters forms (← p.name form none) rest
        else
          match rest with
          | [] => p.name form none
          | '=' :: attached => p.name form (some (String.ofList attached))
          | attached => p.name form (some (String.ofList attached))

/-- Goes on with what follows two dashes: a name, which may have a value attached by `=`. -/
def word (forms : List OptionForm) (p : Progress) (text : List Char) :
    Except Interruption Progress :=
  let name := String.ofList (text.takeWhile (· ≠ '='))
  let attached :=
    match text.dropWhile (· ≠ '=') with
    | [] => none
    | _ :: value => some (String.ofList value)
  if name = "help" then if attached.isSome then .error .misuse else p.help
  else
    match forms.find? fun form => form.name = name with
    | none => .error .misuse
    | some form => p.name form attached

end Progress

inductive Shape where
  /-- Two dashes alone: no options follow. -/
  | stop
  | word (text : List Char)
  | letters (text : List Char)
  | plain

/-- What an argument looks like. A single dash is a value like any other. -/
def Shape.of (argument : String) : Shape :=
  match argument.toList with
  | ['-', '-'] => .stop
  | '-' :: '-' :: text => .word text
  | '-' :: first :: text => .letters (first :: text)
  | _ => .plain

/-- Goes on with an argument that begins with a dash, or else with its text as a value. -/
def Progress.argument (forms : List OptionForm) (p : Progress) (argument : String) :
    Except Interruption Progress :=
  match Shape.of argument with
  | .stop => .error .misuse
  | .word text => p.word forms text
  | .letters text => p.letters forms text
  | .plain => p.value argument

def readOptions (forms : List OptionForm) (p : Progress) :
    List String → Except Interruption (List Occurrence)
  | [] => do return (← p.settle).complete
  | [last] => do
    match Shape.of last with
    | .stop => return (← p.settle).complete
    | _ => return (← (← p.argument forms last).settle).complete
  | argument :: rest => do readOptions forms (← p.argument forms argument) rest

def valuesOf (options : List Occurrence) (name : String) : List String :=
  (options.filter fun option => option.name = name).flatMap Occurrence.values

def isGiven (options : List Occurrence) (name : String) : Bool :=
  options.any fun option => option.name = name

/-! ## Commands -/

inductive Action where
  /-- Prints what there is to report, as JSON if wanted. -/
  | check (json : Bool)
  /-- Writes the source of bindings, into a directory or to the output. -/
  | emit (backends : List Backend) (directory : Option String)
  deriving DecidableEq

structure Command where
  colors : Bool
  /-- The documents, as paths and patterns. -/
  documents : List String
  action : Action
  deriving DecidableEq

inductive Request where
  | run (command : Command)
  | help
  | misuse
  deriving DecidableEq

def anyText (_ : String) : Bool := true

/-- Turns colors off. It may stand before the command or among its options. -/
def noColor : OptionForm := ⟨"no-color", none, .none, anyText⟩

def commonForms : List OptionForm :=
  [noColor, ⟨"input", some 'i', .many, anyText⟩, ⟨"parallel", none, .none, anyText⟩]

def checkForms : List OptionForm := commonForms ++ [⟨"json", none, .none, anyText⟩]

def backendsOf (value : String) : List Backend :=
  Backend.all.filter fun backend => value = "all" || value = backend.name

def emitForms : List OptionForm :=
  commonForms ++
    [⟨"backend", none, .many, fun value => !(backendsOf value).isEmpty⟩,
      ⟨"out", some 'o', .one, fun value => value ≠ ""⟩]

/-- The command that options describe. Documents are required. -/
def commandOf (colors : Bool) (options : List Occurrence) (action : Action) : Request :=
  let documents := valuesOf options "input"
  if documents.isEmpty then .misuse
  else .run ⟨colors && !isGiven options "no-color", documents, action⟩

def requestOf (options : Except Interruption (List Occurrence))
    (request : List Occurrence → Request) : Request :=
  match options with
  | .ok options => request options
  | .error .help => .help
  | .error .misuse => .misuse

def requestFor (colors : Bool) (name : String) (arguments : List String) : Request :=
  if name = "check" then
    requestOf (readOptions checkForms .start arguments) fun options =>
      commandOf colors options (.check (isGiven options "json"))
  else if name = "emit" then
    requestOf (readOptions emitForms .start arguments) fun options =>
      let chosen :=
        if isGiven options "backend" then (valuesOf options "backend").flatMap backendsOf
        else Backend.all
      commandOf colors options (.emit chosen (valuesOf options "out").head?)
  else if name = "help" then
    match arguments with
    | [] | ["check"] | ["emit"] | ["help"] => .help
    | _ => .misuse
  else .misuse

/-- What arguments ask for, of which some options were read already. -/
def requestAfter (p : Progress) : List String → Request
  | [] => .misuse
  | argument :: rest =>
    match Shape.of argument with
    | .plain => requestFor p.complete.isEmpty argument rest
    | _ =>
      match p.argument [noColor] argument with
      | .ok next => requestAfter next rest
      | .error .help => .help
      | .error .misuse => .misuse

def Request.ofArguments (arguments : List String) : Request := requestAfter .start arguments

end ConfigBinding.CommandLine
