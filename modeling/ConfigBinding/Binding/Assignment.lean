import ConfigBinding.Properties
import ConfigBinding.Schema.Declaration
import ConfigBinding.Store.File

/-!
# Assignments

Binding hands values to the setters of fields, one call after the other, and stops at the first
field that cannot be bound. A `Run` records the calls made, whether it stopped, and the state it
leaves.

* `assign`: builds the value of a field from its representation and calls the setter once;
* `Run.forEach`: runs steps in order, each from the state that the one before leaves.
-/

namespace ConfigBinding

inductive BindError where
  | parse (error : ParseError)
  /-- The field has no setter. -/
  | unbound (site : String)
  /-- The value does not have the shape of the field, or its setter refused it. -/
  | value (site : String) (error : ShapeError)
  | store (error : StoreError)

def BindError.message : BindError → String
  | .parse error => error.message
  | .unbound site => "`" ++ site ++ "` is not bound to a slot"
  | .value site error => "`" ++ site ++ "`: " ++ error.message
  | .store error => error.message

inductive Call where
  /-- A value handed to a setter, which may still refuse it. -/
  | set (setter : Setter) (value : Value)
  /-- A method called after a sync. -/
  | hook (name : String)

/-- What came of binding. -/
structure Run (σ : Type) where
  state : σ
  calls : List Call
  failure : Option BindError

namespace Run

variable {σ α : Type}

/-- Nothing was done. -/
def still (state : σ) : Run σ := ⟨state, [], none⟩

def fail (state : σ) (error : BindError) : Run σ := ⟨state, [], some error⟩

/-- Goes on from where a run has ended, unless it was stopped. -/
def andThen (first : Run σ) (next : σ → Run σ) : Run σ :=
  match first.failure with
  | some _ => first
  | none =>
    let second := next first.state
    { second with calls := first.calls ++ second.calls }

/-- Runs steps in order, up to the first that fails. -/
def forEach (step : α → σ → Run σ) : List α → σ → Run σ
  | [], state => still state
  | item :: rest, state => (step item state).andThen (forEach step rest)

end Run

/-- Hands a value to the setter of the field at a site. -/
def call {σ : Type} (setter : Option Setter) (site : String) (value : Value) (state : σ) : Run σ :=
  match setter with
  | none => .fail state (.unbound site)
  | some setter =>
    match setter.accept value with
    | .ok () => ⟨state, [.set setter value], none⟩
    | .error error => ⟨state, [.set setter value], some (.value site error)⟩

/-- Gives the field of a type at a site the value with a representation. -/
def assign {σ : Type} (setter : Option Setter) (site : String) (type : FieldType) (raw : Value)
    (state : σ) : Run σ :=
  call setter site (type.realize raw) state

end ConfigBinding
