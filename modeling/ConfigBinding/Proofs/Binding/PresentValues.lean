import ConfigBinding.Proofs.Binding.Emission
import ConfigBinding.Proofs.Binding.Sync

/-!
# Present values

A value that is stored for a field and one that is written to its property become the same: the
value itself if it has the representation, else what it can be widened to. Only what fits neither
way is told apart, since a sync falls back to the default and a write is refused.

* `UsableField.IsStoredBy.bind_of_fit?`, `UsableField.IsStoredBy.bind_of_unfit`: one step of a sync;
* `StoreLoader.writesFor_of_split`: the same step in a whole sync;
* `present_values_are_treated_alike`: the step and the property of each usable field.
-/

namespace ConfigBinding

/-- Whether a sync that has taken these steps, and has this value stored for the field of its next
    step, goes on with this write and no other for the field. -/
def StoreLoader.WritesFor (loader : StoreLoader) (before : List StoreStep) (field : StoreField)
    (stored : Value) (write : Setter × Value) : Prop :=
  ∀ s files, (Run.forEach StoreStep.run before s).failure = none →
    (Run.forEach StoreStep.run before s).state.value? field.category field.key = some stored →
      (StoreStep.run (.field field) (Run.forEach StoreStep.run before s).state).calls =
          [.set write.1 write.2] ∧
        (Run.forEach StoreStep.run before s).writes ++ [write] <+: (loader.sync s files).1.writes

/-- Whether values that are present for a field in a store are written as those that are handed to
    its property. -/
structure UsableField.TreatsAlike (u : UsableField) (setter : Setter)
    (writesFor : Value → Setter × Value → Prop) (p : Property) : Prop where
  conforming : ∀ value : Value, value.conforms u.type.representation →
    writesFor value (setter, u.type.realize value) ∧
      (p.set value).calls = [.set setter (u.type.realize value)]
  widened : ∀ value raw : Value, value.conforms u.type.representation = false →
    value.widen? u.type.representation = some raw →
      writesFor value (setter, u.type.realize raw) ∧
        (p.set value).calls = [.set setter (u.type.realize raw)]
  unfit : ∀ value : Value, value.conforms u.type.representation = false →
    value.widen? u.type.representation = none →
      writesFor value (setter, u.type.realize u.default) ∧
        (p.set value).calls = [] ∧ (p.set value).Refused

theorem Value.fit?_of_not_conforms {value : Value} {type : FieldType}
    (differs : value.conforms type = false) : value.fit? type = value.widen? type := by
  simp [Value.fit?, differs]

/-! ## The step of a field -/

section Step

variable {u : UsableField} {field : StoreField} {setter : Setter} {s : Store} {value : Value}

theorem UsableField.IsStoredBy.bind_of_fit? (isStored : u.IsStoredBy field)
    (bound : u.field.setter = some setter)
    (found : s.value? field.category field.key = some value) {raw : Value}
    (fits : value.fit? u.type.representation = some raw) :
    (field.bind s).calls = [.set setter (u.type.realize raw)] := by
  rw [← FieldType.type_of_accessor? isStored.accessor] at fits
  rw [StoreField.bind, StoreField.read_of_fit? found fits, isStored.setter, bound, assign_calls,
    isStored.type]

theorem UsableField.IsStoredBy.bind_of_unfit (isStored : u.IsStoredBy field) (sound : u.IsSound)
    (bound : u.field.setter = some setter)
    (found : s.value? field.category field.key = some value)
    (unfit : value.fit? u.type.representation = none) :
    (field.bind s).calls = [.set setter (u.type.realize u.default)] := by
  have readType := FieldType.type_of_accessor? isStored.accessor
  have noneFits : ∀ candidate ∈ s.value? field.category field.key,
      candidate.fit? field.accessor.type = none := by
    intro candidate isCandidate
    rw [found, Option.mem_some_iff] at isCandidate
    rw [← isCandidate, readType, unfit]
  have defaultConforms : field.default.conforms field.accessor.type := by
    rw [isStored.default, readType, Value.conforms_representation]
    exact sound.fits
  rw [StoreField.bind, StoreField.read_of_unfit noneFits defaultConforms, isStored.setter, bound,
    assign_calls, isStored.type, isStored.default]

/-- What a step does for a field is what a sync does when it comes to the step. -/
theorem StoreLoader.writesFor_of_split {loader : StoreLoader} {before after : List StoreStep}
    (split : loader.steps = before ++ .field field :: after) {written : Value}
    (calls : ∀ s : Store, s.value? field.category field.key = some value →
      (field.bind s).calls = [.set setter written]) :
    loader.WritesFor before field value (setter, written) := by
  intro s files succeeded found
  have stepCalls := calls _ found
  refine ⟨stepCalls, ?_⟩
  have comesNext : (Run.forEach StoreStep.run before s).writes ++
      (StoreStep.run (.field field) (Run.forEach StoreStep.run before s).state).writes <+:
        (Run.forEach StoreStep.run (before ++ .field field :: after) s).writes :=
    Run.writes_of_split succeeded
  rw [← split] at comesNext
  rw [StoreLoader.sync_writes, StoreLoader.bind]
  rwa [StoreStep.run, Run.writes, Run.writes, stepCalls] at comesNext

end Step

/-! ## Step and property of a field -/

theorem UsableField.IsKeptBy.set_of_fit? {u : UsableField} {p : Property} (isKept : u.IsKeptBy p)
    {setter : Setter} (bound : u.field.setter = some setter) {value raw : Value}
    (fits : value.fit? u.type.representation = some raw) :
    (p.set value).calls = [.set setter (u.type.realize raw)] := by
  rw [← isKept.representation] at fits
  rw [Property.set_of_fit? (isKept.setter.trans bound) fits, call_calls, isKept.converts]

theorem UsableField.treatsAlike_of_split {u : UsableField} (sound : u.IsSound) {setter : Setter}
    (bound : u.field.setter = some setter) {field : StoreField} (isStored : u.IsStoredBy field)
    {p : Property} (isKept : u.IsKeptBy p) {loader : StoreLoader} {before after : List StoreStep}
    (split : loader.steps = before ++ .field field :: after) :
    u.TreatsAlike setter (loader.WritesFor before field) p := by
  have fitting : ∀ value raw : Value, value.fit? u.type.representation = some raw →
      loader.WritesFor before field value (setter, u.type.realize raw) ∧
        (p.set value).calls = [.set setter (u.type.realize raw)] := by
    intro value raw fits
    refine ⟨?_, isKept.set_of_fit? bound fits⟩
    exact StoreLoader.writesFor_of_split split
      fun s found => isStored.bind_of_fit? bound found fits
  constructor
  case conforming =>
    exact fun value conforms => fitting value value (Value.fit?_of_conforms conforms)
  case widened =>
    intro value raw differs widens
    exact fitting value raw ((Value.fit?_of_not_conforms differs).trans widens)
  case unfit =>
    intro value differs notWidened
    have unfit := (Value.fit?_of_not_conforms differs).trans notWidened
    refine ⟨StoreLoader.writesFor_of_split split
      fun s found => isStored.bind_of_unfit sound bound found unfit, ?_⟩
    rw [← isKept.representation] at unfit
    rw [Property.set_of_unfit (isKept.setter.trans bound) unfit]
    exact ⟨rfl, _, _, rfl⟩

/-- Every usable field with a setter has one step and one property, both at its position, which
    treat present values alike. -/
theorem present_values_are_treated_alike {root : ClassDecl} {l : Layout}
    (surveyed : root.survey.1 = some l) {index : Nat} {u : UsableField}
    (usable : l.usableFields[index]? = some u) {setter : Setter}
    (bound : u.field.setter = some setter) :
    ∃ before field after p,
      (StoreLoader.ofLayout l).steps = before ++ .field field :: after ∧
      (before.filterMap StoreStep.field?).length = index ∧ u.IsStoredBy field ∧
      (Metadata.ofLayout l).properties[index]? = some p ∧ u.IsKeptBy p ∧
      u.TreatsAlike setter ((StoreLoader.ofLayout l).WritesFor before field) p := by
  have sound := ClassDecl.survey_isSound surveyed
  have fieldSound := Layout.isSound_of_mem_usableFields sound (List.mem_of_getElem? usable)
  obtain ⟨field, isField, isStored⟩ :=
    exists_getElem?_of_forall₂ (Layout.storeFields_forall₂ sound) usable
  obtain ⟨p, isProperty, isKept⟩ := exists_getElem?_of_forall₂ l.properties_forall₂ usable
  obtain ⟨before, step, after, split, isStep, position⟩ := exists_split_of_filterMap isField
  cases step with
  | category d => cases isStep
  | field other =>
    cases isStep
    exact ⟨before, field, after, p, split, position, isStored, isProperty, isKept,
      UsableField.treatsAlike_of_split fieldSound bound isStored isKept split⟩

/-- An int that is present for the ratio becomes a double, wherever it is present. -/
theorem gameRoot_present_values_are_treated_alike :
    gameRoot.survey.1 = some gameLayout ∧
      ∃ u setter before field after p, gameLayout.usableFields[1]? = some u ∧
        u.field.setter = some setter ∧
        (StoreLoader.ofLayout gameLayout).steps = before ++ .field field :: after ∧
        (Metadata.ofLayout gameLayout).properties[1]? = some p ∧
        (StoreLoader.ofLayout gameLayout).WritesFor before field (.int 3)
          (setter, .double (.ofInt 3)) ∧
        (p.set (.int 3)).calls = [.set setter (.double (.ofInt 3))] := by
  obtain ⟨u, usable⟩ : ∃ u, gameLayout.usableFields[1]? = some u := ⟨_, rfl⟩
  have listed := congrArg (fun fields => fields[1]?) gameLayout_usableFields
  simp only [List.getElem?_map, usable, Option.map_some, List.getElem?_cons_succ,
    List.getElem?_cons_zero, Option.some.injEq, Prod.mk.injEq] at listed
  obtain ⟨bound, type, -⟩ := listed
  obtain ⟨before, field, after, p, split, -, -, isProperty, -, alike⟩ :=
    present_values_are_treated_alike gameRoot_survey usable bound
  have written := alike.widened (.int 3) (.double (.ofInt 3)) (by rw [type]; rfl)
    (by rw [type]; rfl)
  rw [type] at written
  exact ⟨gameRoot_survey, u, _, before, field, after, p, usable, bound, split, isProperty,
    written.1, written.2⟩

end ConfigBinding
