import ConfigBinding.Binding.Assignment
import ConfigBinding.Layout.Basic

/-!
# Binding to a store

A store loader goes through the fields of a layout, those of inner categories first. Each field is
looked up in the store, added there with its default if it is new, and bound to the value found. A
category is decorated after its fields.

* `StoreLoader.ofLayout`: the steps for a layout;
* `StoreLoader.sync`: binds every field, calls the method for it, and saves the store;
* `StoreLoader.init`: opens a store, loads it and syncs.
-/

namespace ConfigBinding

/-- How a field is bound to a store. -/
structure StoreField where
  category : String
  key : String
  default : Value
  description : Option String
  restart : Restart
  range : Option FieldRange
  languageKey : Option String
  accessor : Accessor
  type : FieldType
  /-- The declared names from the root down to the field. -/
  target : List String
  setter : Option Setter

/-- What is known about a category. -/
structure Decoration where
  name : String
  languageKey : Option String
  restart : Restart
  comment : Option String
  deriving DecidableEq

inductive StoreStep where
  | field (field : StoreField)
  | category (decoration : Decoration)

structure StoreLoader where
  root : String
  steps : List StoreStep
  onSync : Option OnSync

/-! ## From layouts -/

/-- How a field of a category is bound, which lies at a path; a field of an unusable type is not. -/
def Field.storeField? (languagePrefix : Option String) (category : String) (path : List String)
    (f : Field) : Option StoreField := do
  let (type, default) ← f.resolved?
  let accessor ← type.accessor?
  let languageKey := languagePrefix.map (· ++ category ++ "." ++ f.name)
  return {
    category, key := f.name, default, description := f.description, restart := f.restart
    range := f.range, languageKey, accessor, type, target := path ++ [f.name], setter := f.setter }

def Category.decoration? (languagePrefix : Option String) (c : Category) : Option Decoration :=
  let languageKey := languagePrefix.map (· ++ c.name)
  if c.description.isSome || languageKey.isSome || c.restart.world || c.restart.mc then
    some ⟨c.name, languageKey, c.restart, c.description⟩
  else none

mutual

/-- The steps for a category that lies below a path. -/
def Category.storeSteps (languagePrefix : Option String) (above : List String) :
    Category → List StoreStep
  | c@{ children, .. } =>
    let path := above ++ [c.ident]
    Category.storeStepsAll languagePrefix path children ++
      (c.fields.filterMap (Field.storeField? languagePrefix c.name path)).map .field ++
      ((c.decoration? languagePrefix).map .category).toList

def Category.storeStepsAll (languagePrefix : Option String) (above : List String) :
    List Category → List StoreStep
  | [] => []
  | c :: rest =>
    c.storeSteps languagePrefix above ++ Category.storeStepsAll languagePrefix above rest

end

def StoreLoader.ofLayout (l : Layout) : StoreLoader where
  root := l.root
  steps := Category.storeStepsAll l.languagePrefix [] l.categories
  onSync := l.onSync

/-! ## Binding -/

def FieldRange.bounds : FieldRange → Value × Value
  | .int min max => (.int min, .int max)
  | .double min max => (.double min, .double max)

namespace StoreField

/-- A stored setting with what is known about its field. Flags are only ever set. -/
def decorate (field : StoreField) (p : StoreProperty) : StoreProperty :=
  let p := p.withDefault field.default field.description
  { p with
    world := p.world || field.restart.world
    mc := p.mc || field.restart.mc
    min := field.range.map (·.bounds.1) <|> p.min
    max := field.range.map (·.bounds.2) <|> p.max
    languageKey := field.languageKey <|> p.languageKey }

/-- The store with the setting of a field in it. -/
def declare (field : StoreField) (s : Store) : Store :=
  s.updateProperty field.category field.key field.decorate

def setting (field : StoreField) (s : Store) : StoreProperty :=
  (s.property? field.category field.key).getD {}

def bind (field : StoreField) (s : Store) : Run Store :=
  let declared := field.declare s
  assign field.setter (field.category ++ "." ++ field.key) field.type
    ((field.setting declared).read field.accessor) declared

end StoreField

def Decoration.decorate (d : Decoration) (c : StoreCategory) : StoreCategory :=
  { c with
    languageKey := d.languageKey <|> c.languageKey
    world := c.world || d.restart.world
    mc := c.mc || d.restart.mc
    comment := d.comment <|> c.comment }

def StoreStep.run : StoreStep → Store → Run Store
  | .field bound, s => bound.bind s
  | .category d, s => .still (s.updateCategory d.name d.decorate)

namespace StoreLoader

def bind (loader : StoreLoader) (s : Store) : Run Store := Run.forEach StoreStep.run loader.steps s

/-- The call after a sync; a method that cannot be called is left out. -/
def hookCalls (loader : StoreLoader) : List Call :=
  match loader.onSync with
  | some hook => if hook.callable then [.hook hook.name] else []
  | none => []

/-- Binds every field, makes the call after a sync, and saves the store to its file. Nothing of a
    failed bind is saved, but the store keeps what was added to it. -/
def sync (loader : StoreLoader) (s : Store) (files : Files) : Run Store × Files :=
  let bound := loader.bind s
  match bound.failure with
  | some _ => (bound, files)
  | none =>
    let calls := bound.calls ++ loader.hookCalls
    match bound.state.save files with
    | (files, .ok ()) => ({ bound with calls }, files)
    | (files, .error error) => (⟨bound.state, calls, some (.store error)⟩, files)

/-- Opens the store at a path, loads it and syncs. -/
def init (loader : StoreLoader) (path : String) (files : Files) : Run Store × Files :=
  let opened := Store.atPath path
  match opened.load files with
  | .error error => (.fail opened (.store error), files)
  | .ok loaded => loader.sync loaded files

end StoreLoader

end ConfigBinding
