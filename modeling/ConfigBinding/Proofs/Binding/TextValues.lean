import ConfigBinding.Proofs.Binding.PresentValues
import ConfigBinding.Proofs.Binding.Steps
import ConfigBinding.Proofs.Types.TextForms

/-!
# Property texts and stored values

A field gets the same value from the text of a value under its property key as from the value itself
in a store, and a list keeps its items in order however its collection is built.

* `UsableField.IsReadBy.writesRead_of_isText`: the property of a field;
* `UsableField.IsStoredBy.writesStored_of_conforms`: the step of a field;
* `texts_and_stored_values_mean_the_same`: both, for each usable field.
-/

namespace ConfigBinding

/-- Whether a sync of any store that holds this value for the field of the step after these makes
    this write, and no other for the field, when it comes to the step. -/
def StoreLoader.WritesStored (loader : StoreLoader) (before : List StoreStep) (field : StoreField)
    (stored : Value) (write : Setter × Value) : Prop :=
  ∀ s files, s.value? field.category field.key = some stored →
    (Run.forEach StoreStep.run before s).failure = none →
      (StoreStep.run (.field field) (Run.forEach StoreStep.run before s).state).calls =
          [.set write.1 write.2] ∧
        (Run.forEach StoreStep.run before s).writes ++ [write] <+: (loader.sync s files).1.writes

/-- Whether an init from any properties with this text for the field after these makes this write,
    and no other for the field, when it comes to the field. -/
def PropertyLoader.WritesRead (loader : PropertyLoader) (before : List PropertyField)
    (field : PropertyField) (text : String) (write : Setter × Value) : Prop :=
  ∀ source, source field.key = some text →
    (Run.forEach (PropertyField.bind source) before ()).failure = none →
      (field.bind source ()).calls = [.set write.1 write.2] ∧
        (Run.forEach (PropertyField.bind source) before ()).writes ++ [write] <+:
          (loader.init source).writes

section Field

variable {u : UsableField} {setter : Setter} (bound : u.field.setter = some setter)

include bound

/-- Earlier steps leave the value that is stored for a field, so the field gets it. -/
theorem UsableField.IsStoredBy.writesStored_of_conforms {field : StoreField}
    (isStored : u.IsStoredBy field) {loader : StoreLoader} {before after : List StoreStep}
    (split : loader.steps = before ++ .field field :: after) {content : Value}
    (conforms : content.conforms u.type.representation) :
    loader.WritesStored before field content (setter, u.type.realize content) := by
  intro s files stored succeeded
  have writes : loader.WritesFor before field content (setter, u.type.realize content) :=
    StoreLoader.writesFor_of_split split fun s found =>
      isStored.bind_of_fit? bound found (Value.fit?_of_conforms conforms)
  refine writes s files succeeded ?_
  rw [StoreStep.forEach_state succeeded]
  exact s.value?_after_of_some before stored

/-- A text of a value gives the field the value. -/
theorem UsableField.IsReadBy.writesRead_of_isText {keyPrefix : String} {field : PropertyField}
    (isRead : u.IsReadBy keyPrefix field) {loader : PropertyLoader}
    {before after : List PropertyField} (split : loader.fields = before ++ field :: after)
    {content : Value} {text : String} (conforms : content.conforms u.type.representation)
    (isText : content.IsText text) :
    loader.WritesRead before field text (setter, u.type.realize content) := by
  intro source present succeeded
  rw [← FieldType.type_of_accessor? isRead.accessor] at conforms
  have found : source.lookup field.key field.accessor field.default = .ok content := by
    rw [PropertySource.lookup, present]
    exact Accessor.parse_of_isText conforms isText field.key
  have calls : (field.bind source ()).calls = [.set setter (u.type.realize content)] := by
    simp only [PropertyField.bind, found, isRead.setter, bound, assign_calls, isRead.type]
  have comesNext : (Run.forEach (PropertyField.bind source) before ()).writes ++
      (field.bind source ()).writes <+:
        (Run.forEach (PropertyField.bind source) (before ++ field :: after) ()).writes :=
    Run.writes_of_split succeeded
  refine ⟨calls, ?_⟩
  rw [PropertyLoader.init, split]
  rwa [Run.writes, Run.writes, calls] at comesNext

end Field

/-- The items of a list are those of the value that a field is given, however it is built. -/
theorem FieldType.items_realize (type : FieldType) (items : List Value) :
    (type.realize (.array items)).items = .ok items := by
  cases type <;> rfl

/-- Every usable field has one step and one property, both at its position. If it has a setter, the
    property hands it for any text of a value what the step hands it for the stored value, in which
    a list keeps its items. And whatever text a list of strings is read from, it is the strings
    joined. -/
theorem texts_and_stored_values_mean_the_same {root : ClassDecl} {l : Layout}
    (surveyed : root.survey.1 = some l) {index : Nat} {u : UsableField}
    (usable : l.usableFields[index]? = some u) :
    ∃ earlierSteps step laterSteps earlierFields field laterFields,
      ((StoreLoader.ofLayout l).steps = earlierSteps ++ .field step :: laterSteps ∧
        (earlierSteps.filterMap StoreStep.field?).length = index ∧ u.IsStoredBy step) ∧
      ((PropertyLoader.ofLayout l).fields = earlierFields ++ field :: laterFields ∧
        earlierFields.length = index ∧ u.IsReadBy l.propertyPrefix field) ∧
      (∀ setter, u.field.setter = some setter → ∀ content : Value, ∀ text,
        content.conforms u.type.representation → content.IsText text →
          (StoreLoader.ofLayout l).WritesStored earlierSteps step content
              (setter, u.type.realize content) ∧
            (PropertyLoader.ofLayout l).WritesRead earlierFields field text
              (setter, u.type.realize content) ∧
            ∀ items, content = .array items → (u.type.realize content).items = .ok items) ∧
      (u.type.representation = .array .string →
        ∀ (source : PropertySource) raw, source field.key = some raw → ∃ texts : List String,
          source.lookup field.key field.accessor field.default =
              .ok (.array (texts.map .string)) ∧
            String.intercalate "," texts = raw) := by
  have sound := ClassDecl.survey_isSound surveyed
  obtain ⟨step, isStep, isStored⟩ :=
    exists_getElem?_of_forall₂ (Layout.storeFields_forall₂ sound) usable
  obtain ⟨field, isField, isRead⟩ :=
    exists_getElem?_of_forall₂ (Layout.propertyFields_forall₂ sound) usable
  -- Some steps only decorate categories, so the position counts the steps of fields alone.
  obtain ⟨earlierSteps, taken, laterSteps, steps, isTaken, stepPosition⟩ :=
    exists_split_of_filterMap isStep
  cases taken with
  | category d => cases isTaken
  | field other =>
    cases isTaken
    rw [← List.filterMap_some (l := (PropertyLoader.ofLayout l).fields)] at isField
    obtain ⟨earlierFields, _, laterFields, fields, isSame, fieldPosition⟩ :=
      exists_split_of_filterMap isField
    cases isSame
    rw [List.filterMap_some] at fieldPosition
    refine ⟨earlierSteps, step, laterSteps, earlierFields, field, laterFields,
      ⟨steps, stepPosition, isStored⟩, ⟨fields, fieldPosition, isRead⟩, ?_, ?_⟩
    · intro setter bound content text conforms isText
      refine ⟨isStored.writesStored_of_conforms bound steps conforms,
        isRead.writesRead_of_isText bound fields conforms isText, ?_⟩
      rintro items rfl
      exact u.type.items_realize items
    · intro isStrings source raw present
      rw [← FieldType.type_of_accessor? isRead.accessor] at isStrings
      exact PropertySource.lookup_strings isStrings present field.default

/-- An empty name between two others is kept. -/
theorem gameRoot_texts_and_stored_values_mean_the_same :
    gameRoot.survey.1 = some gameLayout ∧
      ∃ u setter earlierSteps step laterSteps earlierFields field laterFields,
        gameLayout.usableFields[0]? = some u ∧ u.field.setter = some setter ∧
        (StoreLoader.ofLayout gameLayout).steps = earlierSteps ++ .field step :: laterSteps ∧
        (PropertyLoader.ofLayout gameLayout).fields = earlierFields ++ field :: laterFields ∧
        (StoreLoader.ofLayout gameLayout).WritesStored earlierSteps step
          (.array [.string "ann", .string "", .string "bob"])
          (setter, .collection "java.util.List" .append
            [.string "ann", .string "", .string "bob"]) ∧
        (PropertyLoader.ofLayout gameLayout).WritesRead earlierFields field "ann,,bob"
          (setter, .collection "java.util.List" .append
            [.string "ann", .string "", .string "bob"]) := by
  obtain ⟨u, usable⟩ : ∃ u, gameLayout.usableFields[0]? = some u := ⟨_, rfl⟩
  have listed := congrArg (fun fields => fields[0]?) gameLayout_usableFields
  simp only [List.getElem?_map, usable, Option.map_some, List.getElem?_cons_zero,
    Option.some.injEq, Prod.mk.injEq] at listed
  obtain ⟨bound, type, -⟩ := listed
  obtain ⟨earlierSteps, step, laterSteps, earlierFields, field, laterFields, ⟨steps, -, -⟩,
    ⟨fields, -, -⟩, alike, -⟩ := texts_and_stored_values_mean_the_same gameRoot_survey usable
  have isText : (Value.array [.string "ann", .string "", .string "bob"]).IsText "ann,,bob" := by
    have texts : String.intercalate "," ["ann", "", "bob"] = "ann,,bob" := rfl
    rw [← texts]
    refine .list (.cons (.string _) (.cons (.string _) (.cons (.string _) .nil))) ?_ (by simp)
    intro s member
    simp only [List.mem_cons, Value.string.injEq, List.not_mem_nil, or_false] at member
    obtain rfl | rfl | rfl := member <;> decide
  obtain ⟨stored, read, -⟩ := alike _ bound _ _ (by rw [type]; rfl) isText
  rw [type] at stored read
  exact ⟨gameRoot_survey, u, _, earlierSteps, step, laterSteps, earlierFields, field, laterFields,
    usable, bound, steps, fields, stored, read⟩

end ConfigBinding
