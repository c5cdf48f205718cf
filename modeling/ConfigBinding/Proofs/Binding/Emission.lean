import ConfigBinding.Binding.Backend
import ConfigBinding.Proofs.Layout.Soundness

/-!
# What bindings are made of

Each binding of a surveyed layout has one entry for each usable field, in the order of
`Layout.usableFields`, whatever it is made of besides.

* `StoreLoader.fields`, `Metadata.properties`: the entries of a store loader, and those of metadata
  with the ones of inner categories first;
* `Layout.steps_eq`: the steps of a store loader, part by part;
* `Layout.storeFields_forall₂`, `Layout.propertyFields_forall₂`, `Layout.properties_forall₂`: the
  entry of each usable field.
-/

namespace ConfigBinding

/-! ## Entries -/

def StoreStep.field? : StoreStep → Option StoreField
  | .field bound => some bound
  | .category _ => none

def StoreLoader.fields (loader : StoreLoader) : List StoreField :=
  loader.steps.filterMap StoreStep.field?

mutual

/-- The properties of a category, after those of the categories inside it. -/
def MetaCategory.propertiesInside : MetaCategory → List Property
  | { properties, children, .. } => MetaCategory.propertiesAmong children ++ properties

def MetaCategory.propertiesAmong : List MetaCategory → List Property
  | [] => []
  | c :: rest => c.propertiesInside ++ MetaCategory.propertiesAmong rest

end

def Metadata.properties (m : Metadata) : List Property :=
  MetaCategory.propertiesAmong m.categories

structure UsableField.IsStoredBy (u : UsableField) (s : StoreField) : Prop where
  category : s.category = u.site.category.name
  key : s.key = u.field.name
  target : s.target = u.target
  type : s.type = u.type
  default : s.default = u.default
  setter : s.setter = u.field.setter
  accessor : u.type.accessor? = some s.accessor

structure UsableField.IsReadBy (keyPrefix : String) (u : UsableField) (p : PropertyField) :
    Prop where
  key : p.key = propertyKey keyPrefix u.target
  target : p.target = u.target
  type : p.type = u.type
  default : p.default = u.default
  setter : p.setter = u.field.setter
  accessor : u.type.accessor? = some p.accessor

structure UsableField.IsKeptBy (u : UsableField) (p : Property) : Prop where
  target : p.target = u.target
  type : p.type = u.type
  default : p.default = u.default
  setter : p.setter = u.field.setter
  representation : p.representation = u.type.representation
  converts : ∀ raw, p.convert raw = u.type.realize raw

@[simp] theorem Backend.root_bindingOf (b : Backend) (l : Layout) :
    (b.bindingOf l).root = l.root := by
  cases b <;> rfl

@[simp] theorem Backend.backend_bindingOf (b : Backend) (l : Layout) :
    (b.bindingOf l).backend = b := by
  cases b <;> rfl

/-! ## Stores -/

/-- The step that a part contributes to a store loader. -/
def LayoutPart.storeStep? (languagePrefix : Option String) : LayoutPart → Option StoreStep :=
  LayoutPart.contribution?
    (fun path c f => (f.storeField? languagePrefix c.name path).map .field)
    (fun c => (c.decoration? languagePrefix).map .category)

theorem Category.storeStepsAll_eq_flatMap (languagePrefix : Option String) (above : List String)
    (siblings : List Category) :
    Category.storeStepsAll languagePrefix above siblings =
      siblings.flatMap (Category.storeSteps languagePrefix above) := by
  induction siblings with
  | nil => rfl
  | cons c rest inductionHypothesis =>
    rw [Category.storeStepsAll, inductionHypothesis, List.flatMap_cons]

/-- The steps of a store loader are those that the parts contribute. -/
theorem Layout.steps_eq (l : Layout) :
    (StoreLoader.ofLayout l).steps =
      l.parts.filterMap (LayoutPart.storeStep? l.languagePrefix) := by
  rw [StoreLoader.ofLayout, Category.storeStepsAll_eq_flatMap]
  apply Layout.flatMap_eq_filterMap_parts
  intro above c
  cases c
  rw [Category.storeSteps, Category.storeStepsAll_eq_flatMap, List.map_filterMap]

/-- A field of a sound layout is bound exactly when it is usable. -/
theorem LayoutPart.storeField_rel {part : LayoutPart} (sound : part.IsSound)
    (languagePrefix : Option String) :
    Option.Rel UsableField.IsStoredBy part.usable?
      ((part.storeStep? languagePrefix).bind StoreStep.field?) := by
  cases part with
  | category placed =>
    simp only [LayoutPart.usable?, LayoutPart.storeStep?, LayoutPart.contribution?]
    cases placed.category.decoration? languagePrefix <;> simp [StoreStep.field?]
  | field placed =>
    simp only [LayoutPart.usable?, LayoutPart.storeStep?, LayoutPart.contribution?]
    cases resolved : placed.field.resolved? with
    | none => simp [Field.storeField?, resolved]
    | some typed =>
      obtain ⟨type, default⟩ := typed
      obtain ⟨-, -, valid, -⟩ := sound.2.of_resolved? resolved
      obtain ⟨accessor, readable⟩ := FieldType.accessor?_of_validate valid
      simp only [Field.storeField?, resolved, readable, Option.map_some, Option.bind_eq_bind,
        Option.bind_some, Option.pure_def, StoreStep.field?]
      exact .some ⟨rfl, rfl, rfl, rfl, rfl, rfl, readable⟩

theorem Layout.storeFields_forall₂ {l : Layout} (sound : ∀ part ∈ l.parts, part.IsSound) :
    List.Forall₂ UsableField.IsStoredBy l.usableFields (StoreLoader.ofLayout l).fields := by
  rw [StoreLoader.fields, Layout.steps_eq, List.filterMap_filterMap]
  exact forall₂_filterMap fun part member =>
    LayoutPart.storeField_rel (sound part member) l.languagePrefix

/-! ## Properties by key -/

theorem Category.propertyFieldsAll_eq_flatMap (keyPrefix : String) (above : List String)
    (siblings : List Category) :
    Category.propertyFieldsAll keyPrefix above siblings =
      siblings.flatMap (Category.propertyFields keyPrefix above) := by
  induction siblings with
  | nil => rfl
  | cons c rest inductionHypothesis =>
    rw [Category.propertyFieldsAll, inductionHypothesis, List.flatMap_cons]

theorem Layout.propertyFields_eq (l : Layout) :
    (PropertyLoader.ofLayout l).fields =
      l.parts.filterMap (LayoutPart.contribution?
        (fun path _ f => f.propertyField? l.propertyPrefix path) (fun _ => none)) := by
  rw [PropertyLoader.ofLayout, Category.propertyFieldsAll_eq_flatMap]
  apply Layout.flatMap_eq_filterMap_parts
  intro above c
  cases c
  rw [Category.propertyFields, Category.propertyFieldsAll_eq_flatMap]
  exact (List.append_nil _).symm

theorem Layout.propertyFields_forall₂ {l : Layout} (sound : ∀ part ∈ l.parts, part.IsSound) :
    List.Forall₂ (UsableField.IsReadBy l.propertyPrefix) l.usableFields
      (PropertyLoader.ofLayout l).fields := by
  rw [Layout.propertyFields_eq]
  refine forall₂_filterMap fun part member => ?_
  cases part with
  | category placed => exact .none
  | field placed =>
    simp only [LayoutPart.usable?, LayoutPart.contribution?]
    cases resolved : placed.field.resolved? with
    | none => simp [Field.propertyField?, resolved]
    | some typed =>
      obtain ⟨type, default⟩ := typed
      obtain ⟨-, -, valid, -⟩ := (sound _ member).2.of_resolved? resolved
      obtain ⟨accessor, readable⟩ := FieldType.accessor?_of_validate valid
      simp only [Field.propertyField?, resolved, readable, Option.map_some, Option.bind_eq_bind,
        Option.bind_some, Option.pure_def]
      exact .some ⟨rfl, rfl, rfl, rfl, rfl, readable⟩

/-! ## Metadata -/

/-- The converter that is found or made for a type builds values of this type. -/
theorem Converters.target_intern (all : Converters) (representation target : FieldType) :
    (all.intern representation target).1.target = target := by
  unfold Converters.intern
  split
  next found isFound =>
    have same := List.find?_some isFound
    simp only [Bool.decide_and, Bool.and_eq_true, decide_eq_true_eq] at same
    exact same.2
  next => rfl

/-- With the converter that its type needs, a property builds values of this type. -/
theorem Property.convert_internFor (p : Property) (all : Converters)
    (interned : p.converter = (all.internFor p.type).1) (raw : Value) :
    p.convert raw = p.type.realize raw := by
  rw [Property.convert, interned]
  cases p.type with
  | collection container component construction =>
    simp only [Converters.internFor, Converter.convert, Converters.target_intern]
  | boolean | int | double | string | array component | unknown name => cases raw <;> rfl

theorem Field.properties_forall₂ (site : PlacedCategory) (start : Nat) (all : Converters)
    (fields : List Field) :
    List.Forall₂ UsableField.IsKeptBy
      (((fields.zipIdx start).map fun (field, index) =>
        LayoutPart.field ⟨site, index, field⟩).filterMap LayoutPart.usable?)
      (Field.properties site.path all fields).1 := by
  induction fields generalizing start all with
  | nil => exact .nil
  | cons f rest inductionHypothesis =>
    simp only [List.zipIdx_cons, List.map_cons, List.filterMap_cons, LayoutPart.usable?,
      Field.properties]
    cases f.resolved? with
    | none => exact inductionHypothesis (start + 1) all
    | some typed =>
      refine .cons ⟨rfl, rfl, rfl, rfl, rfl, fun raw => ?_⟩ (inductionHypothesis (start + 1) _)
      exact Property.convert_internFor _ all rfl raw

/-- The converters that are handed on do not matter: each property gets one of its own type. -/
theorem MetaCategory.propertiesAmong_forall₂ {siblings : List Category} {above : List Category}
    (each : ∀ c ∈ siblings, ∀ place all,
      List.Forall₂ UsableField.IsKeptBy ((c.parts place above).filterMap LayoutPart.usable?)
        (c.metadata (above.map Category.ident) all).1.propertiesInside)
    (index : Nat) (place : List Nat) (all : Converters) :
    List.Forall₂ UsableField.IsKeptBy
      ((Category.partsFrom index place above siblings).filterMap LayoutPart.usable?)
      (MetaCategory.propertiesAmong
        (Category.metadataAll (above.map Category.ident) all siblings).1) := by
  induction siblings generalizing index all with
  | nil => exact .nil
  | cons c rest inductionHypothesis =>
    simp only [Category.partsFrom, List.filterMap_append, Category.metadataAll,
      MetaCategory.propertiesAmong]
    exact List.rel_append (each c List.mem_cons_self _ _)
      (inductionHypothesis (fun other member => each other (List.mem_cons_of_mem c member)) _ _)

theorem Category.metadata_forall₂ (c : Category) (above : List Category) (place : List Nat)
    (all : Converters) :
    List.Forall₂ UsableField.IsKeptBy ((c.parts place above).filterMap LayoutPart.usable?)
      (c.metadata (above.map Category.ident) all).1.propertiesInside := by
  induction c using Category.induction generalizing above place all with
  | step c inductionHypothesis =>
    have pathEq : above.map Category.ident ++ [c.ident] = (above ++ [c]).map Category.ident := by
      simp
    have children := MetaCategory.propertiesAmong_forall₂
      (fun child member => inductionHypothesis child member (above ++ [c])) 0 place all
    have fields := fun handedOn =>
      Field.properties_forall₂ ⟨place, above, c⟩ 0 handedOn c.fields
    rw [← pathEq] at children
    simp only [PlacedCategory.path, PlacedCategory.trail, ← pathEq] at fields
    cases c
    simp only [Category.parts, Category.metadata, MetaCategory.propertiesInside,
      List.filterMap_append, List.filterMap_cons, List.filterMap_nil, LayoutPart.usable?,
      List.append_nil]
    exact List.rel_append children (fields _)

theorem Layout.properties_forall₂ (l : Layout) :
    List.Forall₂ UsableField.IsKeptBy l.usableFields (Metadata.ofLayout l).properties := by
  have each : ∀ c ∈ l.categories, ∀ place all,
      List.Forall₂ UsableField.IsKeptBy ((c.parts place []).filterMap LayoutPart.usable?)
        (c.metadata (List.map Category.ident []) all).1.propertiesInside :=
    fun c _ place all => c.metadata_forall₂ [] place all
  exact MetaCategory.propertiesAmong_forall₂ each 0 [] []

/-! ## Writing to a property -/

namespace Property

variable {p : Property} {setter : Setter} {value raw : Value}

theorem set_of_fit? (bound : p.setter = some setter)
    (fits : value.fit? p.representation = some raw) :
    p.set value = call (some setter) (p.owner ++ "." ++ p.name) (p.convert raw) () := by
  simp [set, bound, fits]

theorem set_of_unfit (bound : p.setter = some setter)
    (unfit : value.fit? p.representation = none) :
    p.set value = .fail () (.value (p.owner ++ "." ++ p.name)
      ⟨p.representation.text, value.describe⟩) := by
  simp [set, bound, unfit]

theorem set_of_unbound (unbound : p.setter = none) :
    p.set value = .fail () (.unbound (p.owner ++ "." ++ p.name)) := by
  simp [set, unbound]

end Property

/-! ## Slots -/

/-- The setter of a place of a host type, which takes the values that convert to this type. -/
def Setter.slot (place : String) (type : HostType) : Setter where
  place
  accept value := (type.convert value).map fun _ => ()

theorem Setter.accept_slot (place : String) (type : HostType) (value : Value) :
    (Setter.slot place type).accept value = (type.convert value).map fun _ => () := rfl

/-! ## A layout to look at -/

/-- A root whose categories lie inside each other, with a default that has to be widened, a type
    that is not usable and a collection. -/
def gameRoot : ClassDecl :=
  { ClassDecl.named "Game" with
    markers := [.config "gui." ""]
    members := [
      .nested { ClassDecl.named "Limits" with
        doc := some "Bounds of play"
        members := [
          .field { FieldDecl.named "ratio" (.primitive "double") with
            markers := [.defaultInt (.one 2)]
            setter := some (.slot "ratio" (.scalar .double)) },
          .field (FieldDecl.named "grid" (.array (.array (.primitive "int")))),
          .nested { ClassDecl.named "Players" with
            members := [
              .field { FieldDecl.named "names" (.declared "java.util.List" [.string] []) with
                markers := [.defaultString (.many ["ann", "bob"])]
                setter := some (.slot "names" (.vector (.scalar .string))) }] }] }] }

def gameLayout : Layout := gameRoot.survey.1.get rfl

theorem gameRoot_survey : gameRoot.survey.1 = some gameLayout := (Option.some_get _).symm

theorem gameLayout_usableFields :
    gameLayout.usableFields.map (fun u => (u.field.setter, u.type, u.default)) =
      [(some (.slot "names" (.vector (.scalar .string))),
          .collection "java.util.List" .string .append, .array [.string "ann", .string "bob"]),
        (some (.slot "ratio" (.scalar .double)), .double, .double (.ofInt 2))] := rfl

/-- What holds of both usable fields holds of all. -/
theorem gameLayout_forall {p : Option Setter → FieldType → Value → Prop}
    (names : p (some (.slot "names" (.vector (.scalar .string))))
      (.collection "java.util.List" .string .append) (.array [.string "ann", .string "bob"]))
    (ratio : p (some (.slot "ratio" (.scalar .double))) .double (.double (.ofInt 2))) :
    ∀ u ∈ gameLayout.usableFields, p u.field.setter u.type u.default := by
  intro u member
  have listed := List.mem_map_of_mem (f := fun u => (u.field.setter, u.type, u.default)) member
  rw [gameLayout_usableFields] at listed
  simp only [List.mem_cons, Prod.mk.injEq, List.not_mem_nil, or_false] at listed
  obtain ⟨setter, type, default⟩ | ⟨setter, type, default⟩ := listed
  · rw [setter, type, default]
    exact names
  · rw [setter, type, default]
    exact ratio

end ConfigBinding
