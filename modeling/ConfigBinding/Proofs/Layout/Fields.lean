import ConfigBinding.Proofs.Layout.Soundness

/-!
# Fields of surveyed layouts

Whatever a root declares, each field of its layout has either no type at all or one that bindings
can use, with a default and bounds to match. A field has no type only because its declared type is
not valid: a valid type always has a default.

* `Layout.Contains`: the categories of a layout, at any depth;
* `Field.IsWellFormed`: fields that bindings can use, or that they leave out;
* `surveyed_fields_are_well_formed`: all fields of a layout.
-/

namespace ConfigBinding

/-- Whether a category is another one or lies inside it, at any depth. -/
inductive Category.Contains : Category → Category → Prop where
  | self (c : Category) : Contains c c
  | child {outer inner c : Category} (isChild : inner ∈ outer.children)
      (contains : Contains inner c) : Contains outer c

def Layout.Contains (l : Layout) (c : Category) : Prop := ∃ top ∈ l.categories, top.Contains c

/-- What bindings rely on in a field of a type. -/
structure Field.IsUsableAs (f : Field) (type : FieldType) : Prop where
  hasType : f.type = some type
  valid : type.validate = .ok ()
  scalarComponent : ∀ component ∈ type.component?,
    component.isArrayLike = false ∧ ∀ name, component ≠ .unknown name
  hasDefault : ∃ default, f.default = some default ∧ default.conforms type
  isRead : ∃ accessor, type.accessor? = some accessor ∧ accessor.type = type.representation
  suits : ∀ range ∈ f.range, range.Suits type

/-- Whether bindings can use a field, or leave it out because nothing is known of it. -/
inductive Field.IsWellFormed (f : Field) : Prop where
  | leftOut (noType : f.type = none) (noDefault : f.default = none) (noRange : f.range = none)
  | usable {type : FieldType} (isUsable : f.IsUsableAs type)

/-! ## Valid types -/

/-- A valid type has a zero value, so a default of it is always found. -/
theorem Element.resolveDefault?_of_validate (e : Element) {type : FieldType}
    (valid : type.validate = .ok ()) : (e.resolveDefault? type).isSome := by
  rw [Element.resolveDefault?, Option.isSome_map]
  exact FieldType.zero?_of_validate valid

/-! ## Surveyed fields -/

theorem Field.IsSound.isWellFormed {f : Field} (sound : f.IsSound) : f.IsWellFormed := by
  cases sound with
  | unusable noType noDefault noRange => exact .leftOut noType noDefault noRange
  | @usable type default hasType hasDefault valid fits suits =>
    obtain ⟨accessor, isRead⟩ := FieldType.accessor?_of_validate valid
    exact .usable
      { hasType
        valid
        scalarComponent := fun component => FieldType.component_of_validate valid
        hasDefault := ⟨default, hasDefault, fits⟩
        isRead := ⟨accessor, isRead, FieldType.type_of_accessor? isRead⟩
        suits }

theorem FieldDecl.survey_type_of_validate (owner : String) {f : FieldDecl}
    (valid : f.type.resolve.validate = .ok ()) :
    (f.survey owner).1.type = some f.type.resolve := by
  obtain ⟨resolved, isResolved⟩ :=
    Option.isSome_iff_exists.mp (f.resolveDefault?_of_validate valid)
  simp only [FieldDecl.survey, valid, isResolved]

theorem ClassDecl.surveyCategory_handle {c : ClassDecl} {parent : Option String}
    {parentHandle : String} {category : Category}
    (found : (c.surveyCategory parent parentHandle).1 = some category) :
    category.handle = parentHandle ++ "." ++ c.name := by
  cases c
  simp only [ClassDecl.surveyCategory] at found
  split at found
  next => cases found
  next =>
    cases found
    rfl

/-- By induction on the class, as its category holds what the classes nested in it become. -/
theorem ClassDecl.surveyCategory_field (c : ClassDecl) {parent : Option String}
    {parentHandle : String} {top category : Category}
    (found : (c.surveyCategory parent parentHandle).1 = some top) (contains : top.Contains category)
    {f : Field} (isField : f ∈ category.fields) :
    ∃ d, c.Declares d ∧ f = (d.survey category.handle).1 := by
  induction c using ClassDecl.induction generalizing parent parentHandle top with
  | step c inductionHypothesis =>
    obtain ⟨-, -, childrenEq, fieldsEq⟩ := ClassDecl.surveyCategory_eq_some found
    cases contains with
    | self =>
      rw [fieldsEq, ← ClassDecl.surveyCategory_handle found] at isField
      obtain ⟨d, isMember, surveyed⟩ := ClassMember.exists_of_configured isField
      exact ⟨d, .member isMember, surveyed⟩
    | child isChild contains =>
      rw [childrenEq] at isChild
      obtain ⟨inner, isMember, becomes⟩ := ClassMember.exists_of_child isChild
      obtain ⟨d, declares, isField⟩ := inductionHypothesis inner isMember becomes contains
      exact ⟨d, .nested isMember declares, isField⟩

/-- Every field of a layout, at any depth, was made in its category from one that the root
    declares. -/
theorem ClassDecl.survey_field {root : ClassDecl} {l : Layout} (surveyed : root.survey.1 = some l)
    {category : Category} (contains : l.Contains category) {f : Field}
    (isField : f ∈ category.fields) :
    ∃ d, root.Declares d ∧ f = (d.survey category.handle).1 := by
  obtain ⟨top, isTop, contains⟩ := contains
  obtain ⟨c, isMember, becomes⟩ := ClassDecl.exists_of_top surveyed isTop
  obtain ⟨d, declares, isField⟩ := c.surveyCategory_field becomes contains isField
  exact ⟨d, .nested isMember declares, isField⟩

/-- Every field of the layout of any root, at any depth, can be used or is left out, and it is left
    out only where the declared type is not valid: a valid type has a default. -/
theorem surveyed_fields_are_well_formed {root : ClassDecl} {l : Layout}
    (surveyed : root.survey.1 = some l) :
    ∀ category, l.Contains category → ∀ f ∈ category.fields,
      f.IsWellFormed ∧
        ∃ d, root.Declares d ∧ f = (d.survey category.handle).1 ∧
          (d.type.resolve.validate = .ok () →
            (d.resolveDefault? d.type.resolve).isSome ∧ f.type = some d.type.resolve) := by
  intro category contains f isField
  obtain ⟨d, declares, rfl⟩ := ClassDecl.survey_field surveyed contains isField
  refine ⟨(FieldDecl.survey_isSound category.handle d).isWellFormed, d, declares, rfl, ?_⟩
  intro valid
  exact ⟨d.resolveDefault?_of_validate valid, d.survey_type_of_validate category.handle valid⟩

/-- A root with a field in a nested category whose default does not fit its bounded type, and one
    whose type is not valid. -/
def dialRoot : ClassDecl :=
  { ClassDecl.named "Radio" with
    members :=
      [.nested
        { ClassDecl.named "Tuner" with
          members :=
            [.nested
              { ClassDecl.named "Dial" with
                members :=
                  [.field
                      { FieldDecl.named "channel" (.primitive "int") with
                        markers := [.defaultString (.one "3"), .range (.ofInt 1) (.ofInt 9)] },
                    .field (FieldDecl.named "grid" (.array (.array (.primitive "int"))))] }] }] }

def dialLayout : Layout := dialRoot.survey.1.get rfl

/-- The default that does not fit gives way to zero, and the field without a valid type has nothing
    else either. -/
theorem dialRoot_fields_are_well_formed :
    dialRoot.survey.1 = some dialLayout ∧
      ∃ tuner dial, dialLayout.categories = [tuner] ∧ tuner.children = [dial] ∧
        dial.fields.map (fun f => (f.type, f.default, f.range.isSome)) =
          [(some .int, some (.int 0), true), (none, none, false)] ∧
        ∀ f ∈ dial.fields, f.IsWellFormed := by
  have surveyed : dialRoot.survey.1 = some dialLayout := (Option.some_get _).symm
  refine ⟨surveyed, _, _, rfl, rfl, rfl, fun f isField => ?_⟩
  have contains : dialLayout.Contains _ :=
    ⟨_, List.mem_cons_self, .child List.mem_cons_self (.self _)⟩
  exact (surveyed_fields_are_well_formed surveyed _ contains f isField).1

end ConfigBinding
