import ConfigBinding.Proofs.Binding.Emission

/-!
# Bindings cover the same fields

The three bindings of a surveyed layout go through the same fields in the same order. They are made
by three recursions that skip fields for different reasons, and agree because a surveyed field is
either of a usable type with a default or without both.

Main statement: `bindings_cover_the_same_fields`.
-/

namespace ConfigBinding

def LayoutPart.IsTakenBy : LayoutPart → StoreStep → Prop
  | .field placed, .field s =>
    s.target = placed.target ∧ s.key = placed.field.name ∧
      s.category = placed.site.category.name ∧ placed.field.type = some s.type ∧
      placed.field.default = some s.default ∧ s.setter = placed.field.setter
  | .category placed, .category d =>
    d.name = placed.category.name ∧ d.restart = placed.category.restart ∧
      d.comment = placed.category.description
  | _, _ => False

/-- Whether something is done for a part: a field has a type, or anything is known about a
    category. -/
def LayoutPart.IsCovered (languagePrefix : Option String) : LayoutPart → Prop
  | .field placed => placed.field.type.isSome
  | .category placed =>
    placed.category.description.isSome ∨ placed.category.restart.world ∨
      placed.category.restart.mc ∨ languagePrefix.isSome

/-- Bindings of a layout cover the same fields. Positions in lists of entries are compared one by
    one, since fields may share their names. -/
structure SameCoverage (l : Layout) (store : StoreLoader) (property : PropertyLoader)
    (metadata : Metadata) : Prop where
  propertyTargets : property.fields.map (·.target) = store.fields.map (·.target)
  metadataTargets : metadata.properties.map (·.target) = store.fields.map (·.target)
  propertyAgrees :
    List.Forall₂ (fun s p => p.type = s.type ∧ p.default = s.default ∧ p.setter = s.setter ∧
      p.accessor = s.accessor) store.fields property.fields
  metadataAgrees :
    List.Forall₂ (fun s p => p.type = s.type ∧ p.default = s.default ∧ p.setter = s.setter)
      store.fields metadata.properties
  storeKeys : ∀ s ∈ store.fields,
    s.category = String.intercalate "." (s.target.dropLast.map Text.lowercase) ∧
      s.target.getLast? = some s.key
  propertyKeys : ∀ p ∈ property.fields,
    p.key = l.propertyPrefix ++ "." ++ String.intercalate "." p.target
  /-- The parts that the steps are taken for: all that are covered, each once, and a category after
      everything inside it. -/
  origins : ∃ origins : List LayoutPart,
    List.Forall₂ LayoutPart.IsTakenBy origins store.steps ∧
      (∀ part, part ∈ origins ↔ part.IsIn l ∧ part.IsCovered l.languagePrefix) ∧
      origins.Nodup ∧
      origins.Pairwise fun earlier later => ¬ later.IsWithin earlier

/-- The category of a sound field is found again from its target. -/
theorem UsableField.IsStoredBy.keys {u : UsableField} {s : StoreField} (stored : u.IsStoredBy s)
    (sound : u.IsSound) :
    s.category = String.intercalate "." (s.target.dropLast.map Text.lowercase) ∧
      s.target.getLast? = some s.key := by
  rw [stored.category, stored.target, stored.key, PlacedField.target]
  refine ⟨?_, List.getLast?_concat⟩
  rw [sound.named, List.dropLast_concat, PlacedCategory.path, List.map_map]
  rfl

/-! ## Steps and parts -/

theorem LayoutPart.isTakenBy_of_storeStep? {part : LayoutPart} (sound : part.IsSound)
    {languagePrefix : Option String} {step : StoreStep}
    (taken : part.storeStep? languagePrefix = some step) : part.IsTakenBy step := by
  have related := LayoutPart.storeField_rel sound languagePrefix
  rw [taken, Option.bind_some] at related
  cases part with
  | category placed =>
    simp only [LayoutPart.storeStep?, LayoutPart.contribution?, Option.map_eq_some_iff,
      Category.decoration?, Option.ite_none_right_eq_some, Option.some.injEq] at taken
    obtain ⟨d, ⟨-, rfl⟩, rfl⟩ := taken
    exact ⟨rfl, rfl, rfl⟩
  | field placed =>
    simp only [LayoutPart.storeStep?, LayoutPart.contribution?, Option.map_eq_some_iff] at taken
    obtain ⟨s, -, rfl⟩ := taken
    cases usable : (LayoutPart.field placed).usable? with
    | none =>
      rw [usable] at related
      cases related
    | some u =>
      rw [usable] at related
      cases related with
      | some stored =>
        have fieldSound := LayoutPart.isSound_of_usable? sound usable
        simp only [LayoutPart.usable?, Option.map_eq_some_iff] at usable
        obtain ⟨typed, -, rfl⟩ := usable
        exact ⟨stored.target, stored.key, stored.category,
          stored.type ▸ fieldSound.hasType, stored.default ▸ fieldSound.hasDefault, stored.setter⟩

theorem LayoutPart.storeStep?_isSome {part : LayoutPart} (sound : part.IsSound)
    (languagePrefix : Option String) :
    (part.storeStep? languagePrefix).isSome ↔ part.IsCovered languagePrefix := by
  cases part with
  | category placed =>
    simp only [LayoutPart.storeStep?, LayoutPart.contribution?, Option.isSome_map,
      Category.decoration?, Option.isSome_ite, Bool.or_eq_true, LayoutPart.IsCovered]
    tauto
  | field placed =>
    have related := LayoutPart.storeField_rel sound languagePrefix
    rw [LayoutPart.IsCovered, ← sound.2.resolved?_isSome]
    simp only [LayoutPart.usable?, LayoutPart.storeStep?, LayoutPart.contribution?] at related ⊢
    rw [Option.isSome_map]
    revert related
    cases placed.field.resolved? <;>
      cases placed.field.storeField? languagePrefix placed.site.category.name placed.site.path <;>
      simp [StoreStep.field?]

/-- Each part contributes at most one step, so the parts that do contribute one, in their order, are
    those that the steps are taken for. -/
theorem Layout.exists_origins {l : Layout} (sound : ∀ part ∈ l.parts, part.IsSound) :
    ∃ origins : List LayoutPart,
      List.Forall₂ LayoutPart.IsTakenBy origins (StoreLoader.ofLayout l).steps ∧
        (∀ part, part ∈ origins ↔ part.IsIn l ∧ part.IsCovered l.languagePrefix) ∧
        origins.Nodup ∧
        origins.Pairwise fun earlier later => ¬ later.IsWithin earlier := by
  have precedes := l.pairwise_parts.filter
    fun part => (part.storeStep? l.languagePrefix).isSome
  refine ⟨l.parts.filter fun part => (part.storeStep? l.languagePrefix).isSome,
    ?taken, ?covered, precedes.imp fun before => before.1, precedes.imp fun before => before.2⟩
  case taken =>
    rw [Layout.steps_eq, ← List.filterMap_eq_filter]
    refine forall₂_filterMap fun part member => ?_
    cases taken : part.storeStep? l.languagePrefix with
    | none => simp [Option.guard, taken]
    | some step =>
      simpa [Option.guard, taken] using
        LayoutPart.isTakenBy_of_storeStep? (sound part member) taken
  case covered =>
    intro part
    rw [List.mem_filter, ← Layout.mem_parts]
    exact and_congr_right fun member =>
      LayoutPart.storeStep?_isSome (sound part member) l.languagePrefix

/-! ## All bindings -/

/-- The three bindings of a surveyed layout cover the same fields in the same order: each field
    with a type once, with one type, default and setter, under the keys that its target gives. -/
theorem bindings_cover_the_same_fields {root : ClassDecl} {l : Layout}
    (surveyed : root.survey.1 = some l) :
    SameCoverage l (.ofLayout l) (.ofLayout l) (.ofLayout l) := by
  have sound := ClassDecl.survey_isSound surveyed
  have stored := Layout.storeFields_forall₂ sound
  have read := Layout.propertyFields_forall₂ sound
  have kept := Layout.properties_forall₂ l
  constructor
  case propertyTargets =>
    refine map_eq_map_of_forall₂ (forall₂_of_common stored read ?_)
    exact fun u _ s p isStored isRead => isRead.target.trans isStored.target.symm
  case metadataTargets =>
    refine map_eq_map_of_forall₂ (forall₂_of_common stored kept ?_)
    exact fun u _ s p isStored isKept => isKept.target.trans isStored.target.symm
  case propertyAgrees =>
    refine forall₂_of_common stored read fun u _ s p isStored isRead => ?_
    refine ⟨isRead.type.trans isStored.type.symm, isRead.default.trans isStored.default.symm,
      isRead.setter.trans isStored.setter.symm, ?_⟩
    exact Option.some.inj (isRead.accessor.symm.trans isStored.accessor)
  case metadataAgrees =>
    refine forall₂_of_common stored kept fun u _ s p isStored isKept => ?_
    exact ⟨isKept.type.trans isStored.type.symm, isKept.default.trans isStored.default.symm,
      isKept.setter.trans isStored.setter.symm⟩
  case storeKeys =>
    intro s member
    obtain ⟨u, isUsable, isStored⟩ := exists_of_mem_right stored member
    exact isStored.keys (Layout.isSound_of_mem_usableFields sound isUsable)
  case propertyKeys =>
    intro p member
    obtain ⟨u, -, isRead⟩ := exists_of_mem_right read member
    rw [isRead.key, isRead.target, propertyKey]
  case origins => exact Layout.exists_origins sound

/-- The field whose type is not usable is left out, and inner categories come first. -/
theorem gameRoot_bindings_cover_the_same_fields :
    gameRoot.survey.1 = some gameLayout ∧
      SameCoverage gameLayout (.ofLayout gameLayout) (.ofLayout gameLayout) (.ofLayout gameLayout) ∧
      (StoreLoader.ofLayout gameLayout).fields.map (·.target) =
        [["Limits", "Players", "names"], ["Limits", "ratio"]] :=
  ⟨gameRoot_survey, bindings_cover_the_same_fields gameRoot_survey, rfl⟩

end ConfigBinding
