import ConfigBinding.Layout.Survey
import ConfigBinding.Proofs.Layout.Parts
import ConfigBinding.Proofs.Types.Fit

/-!
# Soundness of surveyed layouts

What bindings rely on without checking it. In the layout of any root, a field with a type has a
usable type, a default in its representation and only bounds that suit it, and a category is named
after the declared names down to it.

* `ClassMember.surveyContents_children`, `ClassMember.surveyContents_fields`: the members that
  become children and fields, in order;
* `FieldDecl.survey_isSound`: one field;
* `ClassDecl.survey_isMadeFrom`: where all parts of a layout come from;
* `ClassDecl.survey_isSound`: all parts of a layout, and `Layout.isSound_of_mem_usableFields` what
  this means for its usable fields.
-/

namespace ConfigBinding

def FieldRange.Suits : FieldRange → FieldType → Prop
  | .int _ _, type => type = .int
  | .double _ _, type => type = .double

/-- Whether a field has all of a usable type, a default that fits it and suitable bounds, or none
    of them. -/
inductive Field.IsSound (f : Field) : Prop where
  | unusable (noType : f.type = none) (noDefault : f.default = none) (noRange : f.range = none)
  | usable {type : FieldType} {default : Value} (hasType : f.type = some type)
      (hasDefault : f.default = some default) (valid : type.validate = .ok ())
      (fits : default.conforms type) (suits : ∀ range ∈ f.range, range.Suits type)

def joinedName (trail : List Category) : String :=
  String.intercalate "." (trail.map fun c => Text.lowercase c.ident)

/-- Whether a category is named after the declared names down to it. -/
def PlacedCategory.IsNamed (placed : PlacedCategory) : Prop :=
  placed.category.name = joinedName placed.trail

/-- Whether a category is named after its path, and a field sound in such a category. -/
def LayoutPart.IsSound : LayoutPart → Prop
  | .field placed => placed.site.IsNamed ∧ placed.field.IsSound
  | .category placed => placed.IsNamed

/-! ## One field -/

/-- Whether declared or not, a default has the representation of its type. -/
theorem Element.resolveDefault?_conforms {e : Element} {type : FieldType}
    {resolved : ResolvedDefault} (found : e.resolveDefault? type = some resolved) :
    resolved.value.conforms type := by
  simp only [Element.resolveDefault?, Option.map_eq_some_iff] at found
  obtain ⟨zero, known, rfl⟩ := found
  have zeroConforms := FieldType.zero?_conforms known
  cases e.explicitDefault? with
  | none => exact zeroConforms
  | some raw =>
    dsimp only
    split
    next conforms => exact conforms
    next =>
      cases widens : (type.extract raw).widen? type with
      | none => exact zeroConforms
      | some widened => exact Value.widen?_conforms widens

theorem FieldType.surveyRange_suits {type : FieldType} {site : String}
    {declared : Option (Double × Double)} {range : FieldRange}
    (found : (type.surveyRange site declared).1 = some range) : range.Suits type := by
  cases declared with
  | none => cases found
  | some bounds =>
    cases type <;> simp only [FieldType.surveyRange, Option.some.injEq, reduceCtorEq] at found
    all_goals
      subst found
      rfl

theorem FieldDecl.survey_isSound (owner : String) (f : FieldDecl) :
    (f.survey owner).1.IsSound := by
  unfold FieldDecl.survey
  dsimp only
  cases valid : f.type.resolve.validate with
  | error e => exact .unusable rfl rfl rfl
  | ok _ =>
    cases found : f.resolveDefault? f.type.resolve with
    | none => exact .unusable rfl rfl rfl
    | some resolved =>
      exact .usable rfl rfl valid (Element.resolveDefault?_conforms found)
        fun range isRange => FieldType.surveyRange_suits isRange

/-! ## Members of a class -/

/-- A property holds of all classes when it passes from the nested classes to a class. -/
theorem ClassDecl.induction {motive : ClassDecl → Prop}
    (step : ∀ c, (∀ inner, .nested inner ∈ c.members → motive inner) → motive c)
    (c : ClassDecl) : motive c :=
  step c fun inner _ => ClassDecl.induction step inner
termination_by sizeOf c
decreasing_by
  rename_i member
  have smaller := List.sizeOf_lt_of_mem member
  cases c
  simp only [ClassDecl.mk.sizeOf_spec, ClassMember.nested.sizeOf_spec] at *
  omega

/-- Whether a class or one nested in it, at any depth, declares a field. -/
inductive ClassDecl.Declares : ClassDecl → FieldDecl → Prop where
  | member {c : ClassDecl} {f : FieldDecl} (isMember : .field f ∈ c.members) : Declares c f
  | nested {c inner : ClassDecl} {f : FieldDecl} (isMember : .nested inner ∈ c.members)
      (declares : Declares inner f) : Declares c f

def ClassMember.child? (name handle : String) : ClassMember → Option Category
  | .nested c => (c.surveyCategory (some name) handle).1
  | _ => none

def ClassMember.configured? (handle : String) : ClassMember → Option Field
  | .field f => if f.isConfigured then some (f.survey handle).1 else none
  | _ => none

theorem ClassMember.surveyContents_children (name handle : String) (members : List ClassMember) :
    (ClassMember.surveyContents name handle members).children =
      members.filterMap (ClassMember.child? name handle) := by
  induction members with
  | nil => rfl
  | cons member rest inductionHypothesis =>
    cases member with
    | nested c =>
      simp only [ClassMember.surveyContents, inductionHypothesis, List.filterMap_cons,
        ClassMember.child?]
      cases (c.surveyCategory (some name) handle).1 <;> rfl
    | field f =>
      simp only [ClassMember.surveyContents, List.filterMap_cons, ClassMember.child?]
      split <;> exact inductionHypothesis
    | method m =>
      simpa only [ClassMember.surveyContents, List.filterMap_cons, ClassMember.child?] using
        inductionHypothesis

theorem ClassMember.surveyContents_fields (name handle : String) (members : List ClassMember) :
    (ClassMember.surveyContents name handle members).fields =
      members.filterMap (ClassMember.configured? handle) := by
  induction members with
  | nil => rfl
  | cons member rest inductionHypothesis =>
    cases member with
    | nested c =>
      simpa only [ClassMember.surveyContents, List.filterMap_cons, ClassMember.configured?] using
        inductionHypothesis
    | field f =>
      simp only [ClassMember.surveyContents, List.filterMap_cons, ClassMember.configured?]
      split
      next => simpa using inductionHypothesis
      next => exact inductionHypothesis
    | method m =>
      simpa only [ClassMember.surveyContents, List.filterMap_cons, ClassMember.configured?] using
        inductionHypothesis

theorem ClassMember.exists_of_child {name handle : String} {members : List ClassMember}
    {child : Category} (isChild : child ∈ members.filterMap (ClassMember.child? name handle)) :
    ∃ c, .nested c ∈ members ∧ (c.surveyCategory (some name) handle).1 = some child := by
  obtain ⟨member, isMember, becomes⟩ := List.mem_filterMap.mp isChild
  cases member with
  | nested c => exact ⟨c, isMember, becomes⟩
  | field f => cases becomes
  | method m => cases becomes

theorem ClassMember.exists_of_configured {handle : String} {members : List ClassMember} {f : Field}
    (isField : f ∈ members.filterMap (ClassMember.configured? handle)) :
    ∃ d, .field d ∈ members ∧ f = (d.survey handle).1 := by
  obtain ⟨member, isMember, becomes⟩ := List.mem_filterMap.mp isField
  cases member with
  | field d =>
    simp only [ClassMember.configured?, Option.ite_none_right_eq_some, Option.some.injEq] at becomes
    exact ⟨d, isMember, becomes.2.symm⟩
  | nested c => cases becomes
  | method m => cases becomes

/-- The name of the category of a class, which begins with the name of the category around it. -/
def categoryName (parent : Option String) (declared : String) : String :=
  match parent with
  | some parent => parent ++ "." ++ Text.lowercase declared
  | none => Text.lowercase declared

/-- The category that a class becomes inside one with a name and handle, or inside the root. -/
theorem ClassDecl.surveyCategory_eq_some {c : ClassDecl} {parent : Option String}
    {parentHandle : String} {category : Category}
    (found : (c.surveyCategory parent parentHandle).1 = some category) :
    category.ident = c.name ∧
      category.name = categoryName parent c.name ∧
      category.children =
        c.members.filterMap (ClassMember.child? category.name (parentHandle ++ "." ++ c.name)) ∧
      category.fields =
        c.members.filterMap (ClassMember.configured? (parentHandle ++ "." ++ c.name)) := by
  cases c
  simp only [ClassDecl.surveyCategory] at found
  split at found
  next => cases found
  next =>
    simp only [Option.some.injEq] at found
    subst found
    exact ⟨rfl, rfl, ClassMember.surveyContents_children _ _ _,
      ClassMember.surveyContents_fields _ _ _⟩

/-! ## All parts -/

/-- The name of a category is what the names of the categories inside it begin with. -/
def parentName? : List Category → Option String
  | [] => none
  | above => some (joinedName above)

theorem joinedName_append (above : List Category) (c : Category) :
    joinedName (above ++ [c]) = categoryName (parentName? above) c.ident := by
  cases above with
  | nil => exact String.intercalate_singleton
  | cons outer above =>
    rw [joinedName, List.map_append, String.intercalate_append_of_ne_nil (by simp) (by simp)]
    simp [parentName?, categoryName, joinedName, String.append_assoc]

theorem parentName?_append (above : List Category) (c : Category) :
    parentName? (above ++ [c]) = some (joinedName (above ++ [c])) := by
  cases above <;> rfl

/-- Whether a category is named after its path, and a field was made in such a category from one
    that a class declares. -/
def LayoutPart.IsMadeFrom (c : ClassDecl) : LayoutPart → Prop
  | .field placed =>
    placed.site.IsNamed ∧ ∃ f owner, c.Declares f ∧ placed.field = (f.survey owner).1
  | .category placed => placed.IsNamed

theorem LayoutPart.IsMadeFrom.nested {c inner : ClassDecl} {part : LayoutPart}
    (isMember : .nested inner ∈ c.members) (made : part.IsMadeFrom inner) : part.IsMadeFrom c := by
  cases part with
  | category placed => exact made
  | field placed =>
    obtain ⟨isNamed, f, owner, declares, isField⟩ := made
    exact ⟨isNamed, f, owner, .nested isMember declares, isField⟩

/-- By induction on the class: its category gets the name that its path gives, and hands this name
    to the categories inside it. -/
theorem ClassDecl.surveyCategory_isMadeFrom (c : ClassDecl) {above : List Category}
    {parentHandle : String} {category : Category}
    (found : (c.surveyCategory (parentName? above) parentHandle).1 = some category)
    (place : List Nat) : ∀ part ∈ category.parts place above, part.IsMadeFrom c := by
  induction c using ClassDecl.induction generalizing above parentHandle category place with
  | step c inductionHypothesis =>
    obtain ⟨identEq, nameEq, childrenEq, fieldsEq⟩ := ClassDecl.surveyCategory_eq_some found
    have isNamed : category.name = joinedName (above ++ [category]) := by
      rw [nameEq, joinedName_append, identEq]
    intro part member
    rw [Category.parts_eq] at member
    simp only [List.mem_append, List.mem_flatMap, List.mem_map, List.mem_singleton] at member
    obtain (⟨⟨child, index⟩, isChild, inside⟩ | ⟨⟨field, index⟩, isField, rfl⟩) | rfl := member
    · -- The name handed to a child is the one that the path down to this category gives.
      have childMember := List.mem_of_getElem? (List.mem_zipIdx_iff_getElem?.mp isChild)
      rw [childrenEq] at childMember
      obtain ⟨inner, isMember, becomes⟩ := ClassMember.exists_of_child childMember
      rw [isNamed, ← parentName?_append] at becomes
      exact (inductionHypothesis inner isMember becomes _ part inside).nested isMember
    · have fieldMember := List.mem_of_getElem? (List.mem_zipIdx_iff_getElem?.mp isField)
      rw [fieldsEq] at fieldMember
      obtain ⟨f, isMember, surveyed⟩ := ClassMember.exists_of_configured fieldMember
      exact ⟨isNamed, f, _, .member isMember, surveyed⟩
    · exact isNamed

/-- The categories of a layout come from the classes that its root declares. -/
theorem ClassDecl.survey_categories {root : ClassDecl} {l : Layout}
    (surveyed : root.survey.1 = some l) :
    l.categories = root.members.flatMap fun m => (m.surveyRoot root.name).categories := by
  have contentsEq : (RootContents.ofMembers root.name root.members).categories =
      root.members.flatMap fun m => (m.surveyRoot root.name).categories :=
    List.flatMap_map ..
  rw [← contentsEq]
  unfold ClassDecl.survey at surveyed
  generalize RootContents.ofMembers root.name root.members = contents at surveyed ⊢
  split at surveyed
  next => cases surveyed
  next =>
    dsimp only at surveyed
    split at surveyed
    next => cases surveyed
    next =>
      cases surveyed
      rfl

theorem ClassDecl.exists_of_top {root : ClassDecl} {l : Layout} (surveyed : root.survey.1 = some l)
    {top : Category} (isTop : top ∈ l.categories) :
    ∃ c, .nested c ∈ root.members ∧ (c.surveyCategory none root.name).1 = some top := by
  rw [ClassDecl.survey_categories surveyed] at isTop
  obtain ⟨member, isMember, becomes⟩ := List.mem_flatMap.mp isTop
  cases member with
  | nested c => exact ⟨c, isMember, Option.mem_toList.mp becomes⟩
  | field f =>
    simp only [ClassMember.surveyRoot] at becomes
    split at becomes <;> cases becomes
  | method m =>
    simp only [ClassMember.surveyRoot] at becomes
    split at becomes <;> cases becomes

theorem ClassDecl.root_of_survey {root : ClassDecl} {l : Layout}
    (surveyed : root.survey.1 = some l) : l.root = root.name := by
  unfold survey at surveyed
  split at surveyed
  next => cases surveyed
  next =>
    dsimp only at surveyed
    split at surveyed
    next => cases surveyed
    next =>
      cases surveyed
      rfl

/-- All fields of the layout of a root are declared in it. -/
theorem ClassDecl.survey_isMadeFrom {root : ClassDecl} {l : Layout}
    (surveyed : root.survey.1 = some l) : ∀ part ∈ l.parts, part.IsMadeFrom root := by
  intro part member
  rw [Layout.parts, Category.partsFrom_eq_flatMap] at member
  obtain ⟨⟨category, index⟩, isTop, inside⟩ := List.mem_flatMap.mp member
  have topMember := List.mem_of_getElem? (List.mem_zipIdx_iff_getElem?.mp isTop)
  obtain ⟨c, isMember, becomes⟩ := ClassDecl.exists_of_top surveyed topMember
  have found : (c.surveyCategory (parentName? []) root.name).1 = some category := becomes
  exact (c.surveyCategory_isMadeFrom found _ part inside).nested isMember

/-- All parts of the layout of a root are sound. -/
theorem ClassDecl.survey_isSound {root : ClassDecl} {l : Layout}
    (surveyed : root.survey.1 = some l) : ∀ part ∈ l.parts, part.IsSound := by
  intro part member
  have made := ClassDecl.survey_isMadeFrom surveyed part member
  cases part with
  | category placed => exact made
  | field placed =>
    obtain ⟨isNamed, f, owner, -, isField⟩ := made
    exact ⟨isNamed, isField ▸ FieldDecl.survey_isSound owner f⟩

/-! ## Usable fields -/

/-- A field with a type is one with a type and a default. -/
theorem Field.IsSound.resolved?_isSome {f : Field} (sound : f.IsSound) :
    f.resolved?.isSome = f.type.isSome := by
  cases sound with
  | unusable noType noDefault noRange => simp [Field.resolved?, noType]
  | usable hasType hasDefault valid fits suits => simp [Field.resolved?, hasType, hasDefault]

theorem Field.IsSound.of_resolved? {f : Field} (sound : f.IsSound) {type : FieldType}
    {default : Value} (resolved : f.resolved? = some (type, default)) :
    f.type = some type ∧ f.default = some default ∧ type.validate = .ok () ∧
      default.conforms type := by
  cases sound with
  | unusable noType noDefault noRange => simp [Field.resolved?, noType] at resolved
  | usable hasType hasDefault valid fits suits =>
    simp only [Field.resolved?, hasType, hasDefault, Option.some.injEq, Prod.mk.injEq] at resolved
    obtain ⟨rfl, rfl⟩ := resolved
    exact ⟨hasType, hasDefault, valid, fits⟩

/-- What holds of the usable fields of a surveyed layout. -/
structure UsableField.IsSound (u : UsableField) : Prop where
  named : u.site.IsNamed
  hasType : u.field.type = some u.type
  hasDefault : u.field.default = some u.default
  valid : u.type.validate = .ok ()
  fits : u.default.conforms u.type

theorem LayoutPart.field_of_usable? {part : LayoutPart} {u : UsableField}
    (usable : part.usable? = some u) : part = .field u.toPlacedField := by
  cases part with
  | category placed => cases usable
  | field placed =>
    obtain ⟨typed, -, rfl⟩ := Option.map_eq_some_iff.mp usable
    rfl

theorem LayoutPart.isSound_of_usable? {part : LayoutPart} (sound : part.IsSound) {u : UsableField}
    (usable : part.usable? = some u) : u.IsSound := by
  cases part with
  | category placed => cases usable
  | field placed =>
    simp only [LayoutPart.usable?, Option.map_eq_some_iff] at usable
    obtain ⟨⟨type, default⟩, resolved, rfl⟩ := usable
    obtain ⟨hasType, hasDefault, valid, fits⟩ := sound.2.of_resolved? resolved
    exact ⟨sound.1, hasType, hasDefault, valid, fits⟩

theorem Layout.isSound_of_mem_usableFields {l : Layout} (sound : ∀ part ∈ l.parts, part.IsSound)
    {u : UsableField} (member : u ∈ l.usableFields) : u.IsSound := by
  obtain ⟨part, isPart, usable⟩ := List.mem_filterMap.mp member
  exact LayoutPart.isSound_of_usable? (sound part isPart) usable

end ConfigBinding
