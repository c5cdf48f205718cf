import ConfigBinding.Proofs.Binding.Emission
import ConfigBinding.Proofs.Binding.Sync
import ConfigBinding.Proofs.Store.Changes

/-!
# What steps make of a store

A step changes one category of a store, or one setting in it. `Store.after` is the store after some
steps; what is in it is said setting by setting and attribute by attribute.

* `StoreProperty.after_eq`, `StoreCategory.after_eq`: the attributes of a setting and of a category;
* `Store.category?_after`, `Store.property?_after`, `Store.value?_after`, `Store.names_after`,
  `Store.keysIn_after`: what a store holds after steps;
* `Store.after_after`: taking the steps again changes nothing;
* `StoreLoader.bind_state`: a successful bind leaves the store that the steps make;
* `StoreStep.forEach_alike`: binds that find the same values make the same calls.
-/

namespace ConfigBinding

/-! ## One step -/

namespace StoreStep

def named : StoreStep → String
  | .field bound => bound.category
  | .category d => d.name

def change : StoreStep → StoreCategory → StoreCategory
  | .field bound, c =>
    { c with properties := Dictionary.update c.properties bound.key {} bound.decorate }
  | .category d, c => d.decorate c

@[simp] theorem named_field (bound : StoreField) : (field bound).named = bound.category := rfl

@[simp] theorem named_category (d : Decoration) : (category d).named = d.name := rfl

def decoration? : StoreStep → Option Decoration
  | .field _ => none
  | .category d => some d

theorem run_state (step : StoreStep) (s : Store) :
    (step.run s).state = s.updateCategory step.named step.change := by
  cases step with
  | field bound =>
    rw [run, StoreField.bind, assign_state]
    rfl
  | category d => rfl

end StoreStep

def boundFields (steps : List StoreStep) : List StoreField := steps.filterMap StoreStep.field?

@[simp] theorem boundFields_field (field : StoreField) (rest : List StoreStep) :
    boundFields (.field field :: rest) = field :: boundFields rest := rfl

@[simp] theorem boundFields_category (d : Decoration) (rest : List StoreStep) :
    boundFields (.category d :: rest) = boundFields rest := rfl

/-- The fields that steps bind to the setting with a key in a category. -/
def fieldsAt (category key : String) (steps : List StoreStep) : List StoreField :=
  (boundFields steps).filter fun field => field.category = category ∧ field.key = key

def StoreProperty.after (p : StoreProperty) (fields : List StoreField) : StoreProperty :=
  fields.foldl (fun p field => field.decorate p) p

def StoreCategory.after (c : StoreCategory) (steps : List StoreStep) : StoreCategory :=
  steps.foldl (fun c step => step.change c) c

def Store.after (s : Store) (steps : List StoreStep) : Store :=
  { s with
    categories :=
      Dictionary.changeAll s.categories {} (steps.map fun step => (step.named, step.change)) }

/-! ## Settings -/

/-- The first value that a setting gets stays, of all else what was given last counts. -/
theorem StoreProperty.after_eq (p : StoreProperty) (fields : List StoreField) :
    p.after fields =
      { value := p.value <|> fields.head?.map StoreField.default
        comment := latest (fields.map StoreField.description) p.comment
        default := latest (fields.map fun field => some field.default) p.default
        world := raised (fields.map fun field => field.restart.world) p.world
        mc := raised (fields.map fun field => field.restart.mc) p.mc
        min := latest (fields.map fun field => field.range.map (·.bounds.1)) p.min
        max := latest (fields.map fun field => field.range.map (·.bounds.2)) p.max
        languageKey := latest (fields.map StoreField.languageKey) p.languageKey } := by
  induction fields generalizing p with
  | nil =>
    cases p with
    | mk value => cases value <;> rfl
  | cons field rest inductionHypothesis =>
    have step : p.after (field :: rest) = (field.decorate p).after rest := rfl
    rw [step, inductionHypothesis]
    -- The first field has given a value if there was none, so no later default becomes one.
    have kept : ((field.decorate p).value <|> rest.head?.map StoreField.default) =
        (p.value <|> some field.default) := by
      have decorated : (field.decorate p).value = (p.value <|> some field.default) := rfl
      rw [decorated]
      cases p.value <;> rfl
    rw [kept]
    rfl

theorem StoreProperty.after_after (p : StoreProperty) (fields : List StoreField) :
    (p.after fields).after fields = p.after fields := by
  rw [after_eq (p.after fields), after_eq p]
  simp only [latest_latest, raised_raised, StoreProperty.mk.injEq, and_self, and_true]
  cases p.value <;> cases fields.head? <;> rfl

/-! ## Categories -/

/-- Fields change the settings of a category, and decorations all else. -/
theorem StoreCategory.after_eq (c : StoreCategory) (steps : List StoreStep) :
    c.after steps =
      { comment := latest ((steps.filterMap StoreStep.decoration?).map Decoration.comment) c.comment
        languageKey :=
          latest ((steps.filterMap StoreStep.decoration?).map Decoration.languageKey) c.languageKey
        world := raised ((steps.filterMap StoreStep.decoration?).map (·.restart.world)) c.world
        mc := raised ((steps.filterMap StoreStep.decoration?).map (·.restart.mc)) c.mc
        properties := Dictionary.changeAll c.properties {}
          ((boundFields steps).map fun field => (field.key, field.decorate)) } := by
  induction steps generalizing c with
  | nil => rfl
  | cons step rest inductionHypothesis =>
    have first : c.after (step :: rest) = (step.change c).after rest := rfl
    rw [first, inductionHypothesis]
    cases step <;> rfl

theorem changeValue_fields (key : String) (fields : List StoreField) (p : StoreProperty) :
    Dictionary.changeValue key (fields.map fun field => (field.key, field.decorate)) p =
      p.after (fields.filter fun field => field.key = key) := by
  rw [Dictionary.changeValue, List.filter_map, List.foldl_map]
  rfl

theorem StoreCategory.after_after (c : StoreCategory) (steps : List StoreStep) :
    (c.after steps).after steps = c.after steps := by
  have settings := Dictionary.changeAll_changeAll c.properties {}
    ((boundFields steps).map fun field => (field.key, field.decorate)) fun key p => by
      simp only [changeValue_fields, StoreProperty.after_after]
  rw [after_eq (c.after steps), after_eq c, settings]
  simp only [latest_latest, raised_raised]

/-! ## Stores -/

namespace Store

def names (s : Store) : List String := Dictionary.keys s.categories

def keysIn (s : Store) (category : String) : List String :=
  Dictionary.keys ((s.category? category).getD {}).properties

variable (s : Store) (steps : List StoreStep)

theorem after_cons (step : StoreStep) :
    s.after (step :: steps) = (s.updateCategory step.named step.change).after steps := rfl

theorem after_append (later : List StoreStep) :
    s.after (steps ++ later) = (s.after steps).after later := by
  simp only [after, Dictionary.changeAll, List.map_append, List.foldl_append]

theorem changeValue_steps (name : String) (c : StoreCategory) :
    Dictionary.changeValue name (steps.map fun step => (step.named, step.change)) c =
      c.after (steps.filter fun step => step.named = name) := by
  rw [Dictionary.changeValue, List.filter_map, List.foldl_map]
  rfl

/-- Taking the same steps again changes nothing. -/
theorem after_after : (s.after steps).after steps = s.after steps := by
  have categories := Dictionary.changeAll_changeAll s.categories {}
    (steps.map fun step => (step.named, step.change)) fun name c => by
      simp only [changeValue_steps, StoreCategory.after_after]
  simp only [after, categories]

theorem category?_after (name : String) :
    (s.after steps).category? name =
      if name ∈ steps.map StoreStep.named then
        some (((s.category? name).getD {}).after (steps.filter fun step => step.named = name))
      else s.category? name := by
  have names : (steps.map fun step => (step.named, step.change)).map Prod.fst =
      steps.map StoreStep.named := by
    rw [List.map_map]
    rfl
  rw [category?, after, Dictionary.lookup_changeAll, names, changeValue_steps]
  rfl

theorem names_after :
    (s.after steps).names =
      s.names ++ Dictionary.newKeys s.names (steps.map StoreStep.named) := by
  rw [names, after, Dictionary.keys_changeAll, List.map_map]
  rfl

theorem boundFields_filter (name : String) :
    boundFields (steps.filter fun step => step.named = name) =
      (boundFields steps).filter fun field => field.category = name := by
  induction steps with
  | nil => rfl
  | cons step rest inductionHypothesis =>
    cases step with
    | field field =>
      by_cases same : field.category = name <;> simp [same, inductionHypothesis]
    | category d =>
      by_cases same : d.name = name <;> simp [same, inductionHypothesis]

theorem keysIn_after (category : String) :
    (s.after steps).keysIn category =
      s.keysIn category ++ Dictionary.newKeys (s.keysIn category)
        (((boundFields steps).filter fun field => field.category = category).map
          StoreField.key) := by
  rw [keysIn, category?_after]
  by_cases isNamed : category ∈ steps.map StoreStep.named
  · rw [if_pos isNamed, Option.getD_some, StoreCategory.after_eq, boundFields_filter]
    simp only
    rw [Dictionary.keys_changeAll, List.map_map]
    rfl
  · -- A field names its category, so none is bound in this one.
    have noField : (boundFields steps).filter (fun field => field.category = category) = [] := by
      rw [← boundFields_filter, List.filter_eq_nil_iff.mpr, boundFields, List.filterMap_nil]
      intro step member sameName
      exact isNamed (of_decide_eq_true sameName ▸ List.mem_map_of_mem member)
    rw [if_neg isNamed, noField]
    exact (List.append_nil _).symm

theorem property?_after (category key : String) :
    (s.after steps).property? category key =
      if fieldsAt category key steps = [] then s.property? category key
      else some (((s.property? category key).getD {}).after (fieldsAt category key steps)) := by
  induction steps generalizing s with
  | nil => rfl
  | cons step rest inductionHypothesis =>
    rw [after_cons, inductionHypothesis]
    cases step with
    | category d =>
      have keeps : ∀ c, (d.decorate c).properties = c.properties := fun _ => rfl
      have unchanged : (s.updateCategory d.name (StoreStep.category d).change).property? category
          key = s.property? category key := s.property?_updateCategory d.name keeps category key
      rw [StoreStep.named_category, unchanged]
      rfl
    | field field =>
      have declared : s.updateCategory field.category (StoreStep.field field).change =
          field.declare s := rfl
      have split : fieldsAt category key (.field field :: rest) =
          if field.category = category ∧ field.key = key then field :: fieldsAt category key rest
          else fieldsAt category key rest := by
        simp only [fieldsAt, boundFields_field, List.filter_cons, decide_eq_true_eq]
      rw [StoreStep.named_field, declared, split]
      by_cases same : field.category = category ∧ field.key = key
      · obtain ⟨rfl, rfl⟩ := same
        have found : (field.declare s).property? field.category field.key =
            some (field.decorate ((s.property? field.category field.key).getD {})) :=
          s.property?_updateProperty_self _ _ _
        simp only [found, and_self, ↓reduceIte, reduceCtorEq, Option.getD_some]
        split
        next noLater => rw [noLater]; rfl
        next => rfl
      · have different : (category, key) ≠ (field.category, field.key) := by
          rintro ⟨⟩
          exact same ⟨rfl, rfl⟩
        rw [field.property?_declare_of_ne s different, if_neg same]

/-- A value that is stored stays. Where there is none, the first field bound to the setting gives
    its default. -/
theorem value?_after (category key : String) :
    (s.after steps).value? category key =
      (s.value? category key <|> (fieldsAt category key steps).head?.map StoreField.default) := by
  rw [value?, property?_after, value?]
  by_cases noField : fieldsAt category key steps = []
  · rw [if_pos noField, noField]
    cases (s.property? category key).bind StoreProperty.value <;> rfl
  · rw [if_neg noField, Option.bind_some, StoreProperty.after_eq]
    cases s.property? category key <;> rfl

theorem value?_after_of_some {category key : String} {value : Value}
    (stored : s.value? category key = some value) :
    (s.after steps).value? category key = some value := by
  rw [value?_after, stored]
  rfl

end Store

/-! ## Runs of steps -/

theorem StoreStep.forEach_state {steps : List StoreStep} {s : Store}
    (succeeded : (Run.forEach StoreStep.run steps s).failure = none) :
    (Run.forEach StoreStep.run steps s).state = s.after steps := by
  induction steps generalizing s with
  | nil => rfl
  | cons step rest inductionHypothesis =>
    rw [Run.forEach] at succeeded ⊢
    cases outcome : (step.run s).failure with
    | some error =>
      rw [Run.andThen_of_failure outcome, outcome] at succeeded
      cases succeeded
    | none =>
      rw [Run.andThen_of_success outcome] at succeeded ⊢
      rw [Store.after_cons, ← StoreStep.run_state]
      exact inductionHypothesis succeeded

/-- A bind that succeeds leaves the store that its steps make. -/
theorem StoreLoader.bind_state {loader : StoreLoader} {s : Store}
    (succeeded : (loader.bind s).failure = none) : (loader.bind s).state = s.after loader.steps :=
  StoreStep.forEach_state succeeded

theorem StoreLoader.bind_of_sync {loader : StoreLoader} {s : Store} {files : Files}
    (succeeded : (loader.sync s files).1.failure = none) : (loader.bind s).failure = none := by
  cases outcome : (loader.bind s).failure with
  | none => rfl
  | some error => simp [StoreLoader.sync, outcome] at succeeded

/-- A sync that succeeds leaves the store that its steps make. -/
theorem StoreLoader.sync_state {loader : StoreLoader} {s : Store} {files : Files}
    (succeeded : (loader.sync s files).1.failure = none) :
    (loader.sync s files).1.state = s.after loader.steps := by
  have bound := StoreLoader.bind_of_sync succeeded
  rw [← StoreLoader.bind_state bound]
  simp only [StoreLoader.sync, bound]
  split <;> rfl

/-! ## Runs that find the same values -/

/-- Only the value that a store holds for a field matters to what the field is bound to. -/
theorem StoreField.bind_alike (field : StoreField) {s t : Store} {value : Value}
    (stored : (field.declare s).value? field.category field.key = some value)
    (same : t.value? field.category field.key = some value) :
    (field.bind t).calls = (field.bind s).calls ∧
      (field.bind t).failure = (field.bind s).failure := by
  have settingValue : ∀ s : Store, (field.setting (field.declare s)).value =
      (field.declare s).value? field.category field.key := by
    intro s
    rw [Store.value?, StoreField.declare, Store.property?_updateProperty_self, StoreField.setting,
      Store.property?_updateProperty_self]
    rfl
  have sameValue : (field.setting (field.declare t)).value =
      (field.setting (field.declare s)).value := by
    rw [field.value_setting_declare t, settingValue s, stored, same]
    rfl
  have sameRead : (field.setting (field.declare t)).read field.accessor =
      (field.setting (field.declare s)).read field.accessor := by
    simp only [StoreProperty.read, sameValue, field.default_setting_declare]
  simp only [StoreField.bind, sameRead]
  cases field.setter with
  | none => exact ⟨rfl, rfl⟩
  | some setter => simp only [assign, call_calls, call_failure, and_self]

/-- Steps that succeed from one store make the same calls from another that already holds the values
    which they leave in the first. -/
theorem StoreStep.forEach_alike {steps : List StoreStep} {s t : Store}
    (succeeded : (Run.forEach StoreStep.run steps s).failure = none)
    (holds : ∀ category key value, (s.after steps).value? category key = some value →
      t.value? category key = some value) :
    (Run.forEach StoreStep.run steps t).calls = (Run.forEach StoreStep.run steps s).calls ∧
      (Run.forEach StoreStep.run steps t).failure = none := by
  induction steps generalizing s t with
  | nil => exact ⟨rfl, rfl⟩
  | cons step rest inductionHypothesis =>
    have firstSucceeds : (step.run s).failure = none := by
      cases outcome : (step.run s).failure with
      | none => rfl
      | some error =>
        rw [Run.forEach, Run.andThen_of_failure outcome, outcome] at succeeded
        cases succeeded
    have alike : (step.run t).calls = (step.run s).calls ∧
        (step.run t).failure = (step.run s).failure := by
      cases step with
      | category d => exact ⟨rfl, rfl⟩
      | field field =>
        obtain ⟨value, stored⟩ : ∃ value,
            (field.declare s).value? field.category field.key = some value := by
          rw [Store.value?, StoreField.declare, Store.property?_updateProperty_self]
          cases s.property? field.category field.key with
          | none => exact ⟨_, rfl⟩
          | some p =>
            cases found : p.value with
            | none =>
              exact ⟨field.default, by simp [StoreField.decorate, StoreProperty.withDefault, found]⟩
            | some value =>
              exact ⟨value, by simp [StoreField.decorate, StoreProperty.withDefault, found]⟩
        refine field.bind_alike stored (holds _ _ _ ?_)
        exact Store.value?_after_of_some _ rest stored
    have secondSucceeds : (step.run t).failure = none := alike.2.trans firstSucceeds
    rw [Run.forEach, Run.andThen_of_success firstSucceeds] at succeeded
    rw [Run.forEach, Run.forEach, Run.andThen_of_success firstSucceeds,
      Run.andThen_of_success secondSucceeds, alike.1]
    rw [Store.after_cons, ← StoreStep.run_state] at holds
    have holdsLater : ∀ category key value,
        ((step.run s).state.after rest).value? category key = some value →
          ((step.run t).state).value? category key = some value := by
      intro category key value found
      rw [StoreStep.run_state]
      exact Store.value?_after_of_some t [step] (holds category key value found)
    have later := inductionHypothesis succeeded holdsLater
    exact ⟨by rw [later.1], later.2⟩

end ConfigBinding
