import ConfigBinding.Proofs.Binding.PropertyKeys
import ConfigBinding.Proofs.Layout.Reports

/-!
# Language keys

The language keys of fields and of categories share one space of names. A category has the key of
its name, which is in lower case; a field has that of its category and its own name as it is
declared. So where a class has a member class and a field that is named like it in lower case, both
have one key, and nothing else brings two keys together.

* `LayoutPart.keyNames`, `LayoutPart.languageKey_of_storeStep?`: the names that keys are made of;
* `Layout.categoryNames`: the names of all categories;
* `Layout.isChild_of_keyNames`: where a category and a field meet;
* `language_keys_are_unique_iff`: the keys of a store loader.
-/

namespace ConfigBinding

def StoreStep.languageKey? : StoreStep → Option String
  | .field bound => bound.languageKey
  | .category d => d.languageKey

/-! ## Keys of parts -/

/-- The names that the language key of a part is made of. -/
def LayoutPart.keyNames : LayoutPart → List String
  | .category placed => placed.trail.map fun c => Text.lowercase c.ident
  | .field placed => (placed.site.trail.map fun c => Text.lowercase c.ident) ++ [placed.field.name]

theorem LayoutPart.keyNames_ne_nil (part : LayoutPart) : part.keyNames ≠ [] := by
  cases part <;> simp [LayoutPart.keyNames, PlacedCategory.trail]

/-- With a language prefix, there is a key to decorate every category with. -/
theorem Category.decoration?_of_prefix (c : Category) (keyPrefix : String) :
    c.decoration? (some keyPrefix) =
      some ⟨c.name, some (keyPrefix ++ c.name), c.restart, c.description⟩ := by
  simp [Category.decoration?]

theorem Field.languageKey_of_storeField? {f : Field} {keyPrefix category : String}
    {path : List String} {bound : StoreField}
    (made : f.storeField? (some keyPrefix) category path = some bound) :
    bound.languageKey = some (keyPrefix ++ category ++ "." ++ f.name) := by
  simp only [Field.storeField?, Option.bind_eq_bind, Option.bind_eq_some_iff, Option.pure_def,
    Option.some.injEq] at made
  obtain ⟨typed, -, accessor, -, rfl⟩ := made
  rfl

theorem LayoutPart.languageKey_of_storeStep? {part : LayoutPart} (sound : part.IsSound)
    {keyPrefix : String} {step : StoreStep} (made : part.storeStep? (some keyPrefix) = some step) :
    step.languageKey? = some (keyPrefix ++ String.intercalate "." part.keyNames) := by
  cases part with
  | category placed =>
    have named : placed.category.name = joinedName placed.trail := sound
    rw [LayoutPart.storeStep?, LayoutPart.contribution?, Category.decoration?_of_prefix] at made
    cases made
    rw [StoreStep.languageKey?, named, joinedName, LayoutPart.keyNames]
  | field placed =>
    have named : placed.site.category.name = joinedName placed.site.trail := sound.1
    have inside : placed.site.trail.map (fun c => Text.lowercase c.ident) ≠ [] := by
      simp [PlacedCategory.trail]
    obtain ⟨bound, isBound, rfl⟩ := Option.map_eq_some_iff.mp made
    rw [StoreStep.languageKey?, Field.languageKey_of_storeField? isBound, LayoutPart.keyNames,
      intercalate_append_name inside, named, joinedName]
    simp only [String.append_assoc]

/-- The fields that are bound to a store are the usable ones. -/
theorem LayoutPart.exists_usable_of_storeStep? {placed : PlacedField}
    (sound : (LayoutPart.field placed).IsSound) {languagePrefix : Option String} {step : StoreStep}
    (made : (LayoutPart.field placed).storeStep? languagePrefix = some step) :
    ∃ u, (LayoutPart.field placed).usable? = some u := by
  have together := LayoutPart.storeField_rel sound languagePrefix
  obtain ⟨bound, -, rfl⟩ := Option.map_eq_some_iff.mp made
  rw [made] at together
  cases usable : (LayoutPart.field placed).usable? with
  | some u => exact ⟨u, rfl⟩
  | none =>
    rw [usable] at together
    cases together

theorem LayoutPart.exists_storeStep_of_usable? {part : LayoutPart} (sound : part.IsSound)
    {u : UsableField} (usable : part.usable? = some u) (languagePrefix : Option String) :
    ∃ step, part.storeStep? languagePrefix = some step := by
  have together := LayoutPart.storeField_rel sound languagePrefix
  rw [usable] at together
  cases made : part.storeStep? languagePrefix with
  | some step => exact ⟨step, rfl⟩
  | none =>
    rw [made] at together
    cases together

/-! ## Names of categories -/

def LayoutPart.category? : LayoutPart → Option PlacedCategory
  | .category placed => some placed
  | .field _ => none

def Layout.categoryNames (l : Layout) : List String :=
  (l.parts.filterMap LayoutPart.category?).map fun placed => placed.category.name

theorem Layout.placed_eq_of_categoryNames {l : Layout} (named : l.categoryNames.Nodup)
    {p q : PlacedCategory} (isIn : p.IsIn l) (otherIsIn : q.IsIn l)
    (same : p.category.name = q.category.name) : p = q := by
  have samePart := (nodup_map_filterMap_iff l.nodup_parts).mp named (.category p)
    ((Layout.mem_parts l _).mpr isIn) (.category q) ((Layout.mem_parts l _).mpr otherIsIn) p q rfl
    rfl same
  exact LayoutPart.category.inj samePart

section Surveyed

variable {root : ClassDecl} {l : Layout} (surveyed : root.survey.1 = some l)
include surveyed

theorem Layout.point_not_mem_keyNames (plain : root.HasPlainNames)
    (plainFields : root.HasPlainFields) {part : LayoutPart} (isIn : part.IsIn l) :
    ∀ name ∈ part.keyNames, '.' ∉ name.toList := by
  cases part with
  | category placed => exact Layout.point_not_mem_trail surveyed plain isIn
  | field placed =>
    refine List.forall_mem_append.mpr ⟨Layout.point_not_mem_trail surveyed plain isIn.1, ?_⟩
    rw [List.forall_mem_singleton]
    exact Layout.forall_fieldName (P := fun name => '.' ∉ name.toList) surveyed plainFields
      isIn.1.contains (List.mem_of_getElem? isIn.2)

/-- Where declared names hold no points, a key tells the names that it is made of. -/
theorem Layout.languageKey_eq_iff (plain : root.HasPlainNames) (plainFields : root.HasPlainFields)
    {keyPrefix : String} {part other : LayoutPart} (isPart : part ∈ l.parts)
    (otherIsPart : other ∈ l.parts) {step otherStep : StoreStep}
    (made : part.storeStep? (some keyPrefix) = some step)
    (otherMade : other.storeStep? (some keyPrefix) = some otherStep) :
    step.languageKey? = otherStep.languageKey? ↔ part.keyNames = other.keyNames := by
  have sound := ClassDecl.survey_isSound surveyed
  have plainNames : ∀ part ∈ l.parts, ∀ name ∈ part.keyNames, '.' ∉ name.toList :=
    fun part isPart => Layout.point_not_mem_keyNames surveyed plain plainFields
      ((Layout.mem_parts l part).mp isPart)
  rw [LayoutPart.languageKey_of_storeStep? (sound part isPart) made,
    LayoutPart.languageKey_of_storeStep? (sound other otherIsPart) otherMade, Option.some.injEq,
    String.append_right_inj]
  refine ⟨fun same => ?_, congrArg _⟩
  exact eq_of_intercalate_point part.keyNames_ne_nil (plainNames part isPart)
    other.keyNames_ne_nil (plainNames other otherIsPart) same

section Named

variable (named : l.categoryNames.Nodup)
include named

/-- Categories with different names are told apart by the declared names in lower case on the way
    down to them. -/
theorem Layout.placed_eq_of_lowercase (p q : PlacedCategory) (isIn : p.IsIn l)
    (otherIsIn : q.IsIn l) (same : (p.trail.map fun c => Text.lowercase c.ident) =
      q.trail.map fun c => Text.lowercase c.ident) : p = q := by
  have sameName : joinedName p.trail = joinedName q.trail := congrArg (String.intercalate ".") same
  rw [← isIn.isNamed surveyed, ← otherIsIn.isNamed surveyed] at sameName
  exact Layout.placed_eq_of_categoryNames named isIn otherIsIn sameName

theorem Layout.field_eq_of_keyNames (distinct : root.HasDistinctMembers) {p q : PlacedField}
    (isIn : p.IsIn l) (otherIsIn : q.IsIn l)
    (same : (LayoutPart.field p).keyNames = (LayoutPart.field q).keyNames) : p = q := by
  have names := Layout.nodup_fieldNames surveyed distinct isIn.1.contains
  exact Layout.field_eq_of_keys (Layout.placed_eq_of_lowercase surveyed named) isIn otherIsIn names
    same

/-- A category with the key of a field is a child of the field's category, and named like it. -/
theorem Layout.isChild_of_keyNames {p : PlacedField} {q : PlacedCategory} (isIn : p.IsIn l)
    (otherIsIn : q.IsIn l)
    (same : (LayoutPart.field p).keyNames = (LayoutPart.category q).keyNames) :
    q.category ∈ p.site.category.children ∧ Text.lowercase q.category.ident = p.field.name :=
  Layout.isChild_of_keys (Layout.placed_eq_of_lowercase surveyed named) isIn.1 otherIsIn same.symm

theorem Layout.keyNames_ne_of_unlike
    (unlike : ∀ u ∈ l.usableFields, ∀ child ∈ u.site.category.children,
      Text.lowercase child.ident ≠ u.field.name) {p : PlacedField} {q : PlacedCategory}
    (isPart : .field p ∈ l.parts) (isIn : q.IsIn l) {languagePrefix : Option String}
    {step : StoreStep} (made : (LayoutPart.field p).storeStep? languagePrefix = some step) :
    (LayoutPart.field p).keyNames ≠ (LayoutPart.category q).keyNames := by
  intro same
  have sound := ClassDecl.survey_isSound surveyed _ isPart
  obtain ⟨u, usable⟩ := LayoutPart.exists_usable_of_storeStep? sound made
  cases LayoutPart.field_of_usable? usable
  obtain ⟨isChild, sameName⟩ := Layout.isChild_of_keyNames surveyed named
    ((Layout.mem_parts l _).mp isPart) isIn same
  exact unlike u (List.mem_filterMap.mpr ⟨_, isPart, usable⟩) _ isChild sameName

end Named

end Surveyed

theorem PlacedField.IsIn.exists_child_part {l : Layout} {p : PlacedField} (isIn : p.IsIn l)
    {child : Category} (isChild : child ∈ p.site.category.children)
    (same : Text.lowercase child.ident = p.field.name) :
    ∃ q : PlacedCategory, q.IsIn l ∧
      (LayoutPart.field p).keyNames = (LayoutPart.category q).keyNames := by
  obtain ⟨q, otherIsIn, above, rfl⟩ := isIn.1.exists_child isChild
  refine ⟨q, otherIsIn, ?_⟩
  simp only [LayoutPart.keyNames, PlacedCategory.trail, above, same, List.map_append,
    List.map_singleton]

/-- Where members that are kept of a class differ in name, of classes and of fields for themselves,
    no name of a class or field has a point in it, and all categories have different names, the
    language keys of all steps are different exactly if no usable field is named like the lower case
    of a class beside it. Whether anything was reported does not matter. -/
theorem language_keys_are_unique_iff {root : ClassDecl} {l : Layout}
    (surveyed : root.survey.1 = some l) (distinct : root.HasDistinctMembers)
    (plain : root.HasPlainNames) (plainFields : root.HasPlainFields) {keyPrefix : String}
    (prefixed : l.languagePrefix = some keyPrefix) (named : l.categoryNames.Nodup) :
    ((StoreLoader.ofLayout l).steps.map StoreStep.languageKey?).Nodup ↔
      ∀ u ∈ l.usableFields, ∀ child ∈ u.site.category.children,
        Text.lowercase child.ident ≠ u.field.name := by
  have sound := ClassDecl.survey_isSound surveyed
  rw [Layout.steps_eq, prefixed, nodup_map_filterMap_iff l.nodup_parts]
  constructor
  · intro tells u isUsable child isChild same
    obtain ⟨part, isPart, usable⟩ := List.mem_filterMap.mp isUsable
    cases LayoutPart.field_of_usable? usable
    have isIn : u.toPlacedField.IsIn l := (Layout.mem_parts l _).mp isPart
    obtain ⟨q, otherIsIn, sameNames⟩ := isIn.exists_child_part isChild same
    have otherIsPart := (Layout.mem_parts l (.category q)).mpr otherIsIn
    obtain ⟨step, made⟩ :=
      LayoutPart.exists_storeStep_of_usable? (sound _ isPart) usable (some keyPrefix)
    have otherMade : (LayoutPart.category q).storeStep? (some keyPrefix) = some (.category _) :=
      congrArg (Option.map StoreStep.category) (q.category.decoration?_of_prefix keyPrefix)
    have sameKey := (Layout.languageKey_eq_iff surveyed plain plainFields isPart otherIsPart made
      otherMade).mpr sameNames
    cases tells _ isPart _ otherIsPart _ _ made otherMade sameKey
  · intro unlike part isPart other otherIsPart step otherStep made otherMade same
    rw [Layout.languageKey_eq_iff surveyed plain plainFields isPart otherIsPart made otherMade]
      at same
    have isIn := (Layout.mem_parts l part).mp isPart
    have otherIsIn := (Layout.mem_parts l other).mp otherIsPart
    cases part with
    | field p =>
      cases other with
      | field q =>
        exact congrArg LayoutPart.field
          (Layout.field_eq_of_keyNames surveyed named distinct isIn otherIsIn same)
      | category q =>
        exact absurd same (Layout.keyNames_ne_of_unlike surveyed named unlike isPart otherIsIn made)
    | category p =>
      cases other with
      | field q =>
        exact absurd same.symm
          (Layout.keyNames_ne_of_unlike surveyed named unlike otherIsPart isIn otherMade)
      | category q =>
        exact congrArg LayoutPart.category
          (Layout.placed_eq_of_lowercase surveyed named p q isIn otherIsIn same)

/-- A root with a prefix of language keys, and with classes and fields whose names differ in the
    case of letters only, or are the same at different depths. -/
def studioRoot : ClassDecl :=
  { ClassDecl.named "Studio" with
    markers := [.config "gui." ""]
    members :=
      [.nested
          { ClassDecl.named "Lamp" with
            members :=
              [.nested
                  { ClassDecl.named "WarmLight" with
                    members := [.field (FieldDecl.named "lamp" (.primitive "int"))] },
                .field (FieldDecl.named "Warmlight" (.primitive "int")),
                .field (FieldDecl.named "lamp" (.primitive "int"))] }] }

def studioLayout : Layout := studioRoot.survey.1.get rfl

theorem studioRoot_language_keys_are_unique :
    studioRoot.survey.1 = some studioLayout ∧ studioRoot.survey.2 = [] ∧
      studioRoot.HasDistinctMembers ∧ studioRoot.HasPlainNames ∧ studioRoot.HasPlainFields ∧
      studioLayout.languagePrefix = some "gui." ∧ studioLayout.categoryNames.Nodup ∧
      ((StoreLoader.ofLayout studioLayout).steps.map StoreStep.languageKey?).Nodup ∧
      (StoreLoader.ofLayout studioLayout).steps.map StoreStep.languageKey? =
        [some "gui.lamp.warmlight.lamp", some "gui.lamp.warmlight", some "gui.lamp.Warmlight",
          some "gui.lamp.lamp", some "gui.lamp"] := by
  have surveyed : studioRoot.survey.1 = some studioLayout := (Option.some_get _).symm
  have distinct : studioRoot.HasDistinctMembers := by decide +kernel
  have plain : studioRoot.HasPlainNames := by decide +kernel
  have plainFields : studioRoot.HasPlainFields := by decide +kernel
  have prefixed : studioLayout.languagePrefix = some "gui." := rfl
  have named : studioLayout.categoryNames.Nodup := by decide +kernel
  have unlike : ∀ u ∈ studioLayout.usableFields, ∀ child ∈ u.site.category.children,
      Text.lowercase child.ident ≠ u.field.name := by decide +kernel
  exact ⟨surveyed, by decide +kernel, distinct, plain, plainFields, prefixed, named,
    (language_keys_are_unique_iff surveyed distinct plain plainFields prefixed named).mpr unlike,
    by decide +kernel⟩

/-- A root whose category has a child category, and a field of the child's name in lower case. -/
def galleryRoot : ClassDecl :=
  { ClassDecl.named "Gallery" with
    markers := [.config "gui." ""]
    members :=
      [.nested
          { ClassDecl.named "Hall" with
            members :=
              [.nested
                  { ClassDecl.named "FrontDoor" with
                    members := [.field (FieldDecl.named "width" (.primitive "int"))] },
                .field (FieldDecl.named "frontdoor" (.primitive "int"))] }] }

def galleryLayout : Layout := galleryRoot.survey.1.get rfl

/-- Names are rendered apart, so nothing is reported, and yet the field has the language key of the
    child category. -/
theorem galleryRoot_shares_a_language_key :
    galleryRoot.survey.1 = some galleryLayout ∧ galleryRoot.survey.2 = [] ∧
      galleryRoot.HasDistinctMembers ∧ galleryRoot.HasPlainNames ∧ galleryRoot.HasPlainFields ∧
      galleryLayout.languagePrefix = some "gui." ∧ galleryLayout.categoryNames.Nodup ∧
      (StoreLoader.ofLayout galleryLayout).steps.map StoreStep.languageKey? =
        [some "gui.hall.frontdoor.width", some "gui.hall.frontdoor", some "gui.hall.frontdoor",
          some "gui.hall"] ∧
      ¬ ((StoreLoader.ofLayout galleryLayout).steps.map StoreStep.languageKey?).Nodup := by
  have surveyed : galleryRoot.survey.1 = some galleryLayout := (Option.some_get _).symm
  have keys : (StoreLoader.ofLayout galleryLayout).steps.map StoreStep.languageKey? =
      [some "gui.hall.frontdoor.width", some "gui.hall.frontdoor", some "gui.hall.frontdoor",
        some "gui.hall"] := by decide +kernel
  refine ⟨surveyed, by decide +kernel, by decide +kernel, by decide +kernel, by decide +kernel, rfl,
    by decide +kernel, keys, ?_⟩
  rw [keys]
  decide

end ConfigBinding
