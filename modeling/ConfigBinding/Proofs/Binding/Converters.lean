import ConfigBinding.Proofs.Binding.Emission

/-!
# Converters of metadata

Metadata makes a converter the first time that it comes to a collection type, and hands the same one
out whenever the type comes back. So there is one for each pair of a representation and a type, and
its number is its place among them.

* `Converters.AreFor`: the converters of some pairs, in the order of their first occurrence;
* `Converters.internForEach`, `Converters.internAll`: the types of fields one after the other, or
  pairs of which it is known already that they are converted;
* `Converters.areFor_internForEach`, `Converters.serve_internForEach`: what there is in the end, and
  what each type gets;
* `Layout.metadata_goesThrough`: metadata goes through the types of the usable fields.
-/

namespace ConfigBinding

def Converter.pair (c : Converter) : FieldType × FieldType := (c.representation, c.target)

/-- What values of a type are converted from and to, which only collections are. -/
def FieldType.conversion? (type : FieldType) : Option (FieldType × FieldType) :=
  match type with
  | .collection _ _ _ => some (type.representation, type)
  | _ => none

theorem FieldType.eq_of_conversion? {type : FieldType} {pair : FieldType × FieldType}
    (needed : type.conversion? = some pair) : pair = (type.representation, type) := by
  cases type with
  | collection => exact (Option.some.inj needed).symm
  | boolean | int | double | string | array | unknown => cases needed

/-- The conversions that the fields of a layout need, field by field. -/
def Layout.conversions (l : Layout) : List (FieldType × FieldType) :=
  l.usableFields.filterMap fun u => u.type.conversion?

namespace Converters

/-- Whether there is exactly one converter for each of some pairs, numbered and named in the order
    in which the pairs first occur. -/
structure AreFor (all : Converters) (pairs : List (FieldType × FieldType)) : Prop where
  ids : all.map Converter.id = List.range all.length
  names : all.map Converter.name = (List.range all.length).map fun id => "Property" ++ toString id
  nodup : (all.map Converter.pair).Nodup
  mem_iff : ∀ pair, pair ∈ all.map Converter.pair ↔ pair ∈ pairs
  ordered : (all.map Converter.pair).Pairwise fun first second =>
    pairs.idxOf first < pairs.idxOf second

/-- The converters that types get one after the other, if they need any, and all there are then. -/
def internForEach : Converters → List FieldType → List (Option Converter) × Converters
  | all, [] => ([], all)
  | all, type :: rest =>
    let (converter, all) := all.internFor type
    let (others, all) := internForEach all rest
    (converter :: others, all)

def internAll : Converters → List (FieldType × FieldType) → List Converter × Converters
  | all, [] => ([], all)
  | all, (representation, target) :: rest =>
    let (converter, all) := all.intern representation target
    let (others, all) := internAll all rest
    (converter :: others, all)

/-! ## One pair -/

variable {all : Converters} {representation target : FieldType}

theorem intern_of_mem (known : (representation, target) ∈ all.map Converter.pair) :
    ∃ c ∈ all, c.pair = (representation, target) ∧ all.intern representation target = (c, all) := by
  unfold intern
  split
  next found isFound =>
    refine ⟨found, List.mem_of_find?_eq_some isFound, ?_, rfl⟩
    simpa [Converter.pair] using List.find?_some isFound
  next noneFound =>
    obtain ⟨c, isMember, isPair⟩ := List.mem_map.mp known
    simp only [Converter.pair, Prod.mk.injEq] at isPair
    simpa [isPair] using List.find?_eq_none.mp noneFound c isMember

theorem intern_of_not_mem (unknown : (representation, target) ∉ all.map Converter.pair) :
    all.intern representation target =
      (⟨all.length, representation, target⟩, all ++ [⟨all.length, representation, target⟩]) := by
  unfold intern
  split
  next found isFound =>
    have isPair := List.find?_some isFound
    refine absurd (List.mem_map.mpr ⟨found, List.mem_of_find?_eq_some isFound, ?_⟩) unknown
    simpa [Converter.pair] using isPair
  next => rfl

theorem areFor_nil : AreFor [] [] := ⟨rfl, rfl, .nil, fun _ => Iff.rfl, .nil⟩

namespace AreFor

variable {pairs : List (FieldType × FieldType)}

theorem of_known (areFor : all.AreFor pairs)
    (known : (representation, target) ∈ all.map Converter.pair) :
    all.AreFor (pairs ++ [(representation, target)]) where
  ids := areFor.ids
  names := areFor.names
  nodup := areFor.nodup
  mem_iff pair := by
    rw [List.mem_append, ← areFor.mem_iff pair, List.mem_singleton]
    exact ⟨.inl, Or.rec id (· ▸ known)⟩
  ordered := by
    refine areFor.ordered.imp_of_mem fun {first second} isFirst isSecond less => ?_
    rw [List.idxOf_append_of_mem ((areFor.mem_iff first).mp isFirst),
      List.idxOf_append_of_mem ((areFor.mem_iff second).mp isSecond)]
    exact less

theorem of_unknown (areFor : all.AreFor pairs)
    (unknown : (representation, target) ∉ all.map Converter.pair) :
    AreFor (all ++ [⟨all.length, representation, target⟩])
      (pairs ++ [(representation, target)]) where
  ids := by simp [areFor.ids, List.range_succ]
  names := by simp [areFor.names, List.range_succ, Converter.name]
  nodup := by
    rw [List.map_append, List.nodup_append]
    refine ⟨areFor.nodup, by simp, ?_⟩
    rintro pair isOld _ isNew rfl
    obtain rfl : pair = (representation, target) := List.mem_singleton.mp isNew
    exact unknown isOld
  mem_iff pair := by
    rw [List.map_append, List.mem_append, List.mem_append, areFor.mem_iff pair]
    rfl
  ordered := by
    have isNew : (representation, target) ∉ pairs := fun old => unknown ((areFor.mem_iff _).mpr old)
    rw [List.map_append, List.pairwise_append]
    refine ⟨?_, List.pairwise_singleton _ _, ?_⟩
    · refine areFor.ordered.imp_of_mem fun {first second} isFirst isSecond less => ?_
      rw [List.idxOf_append_of_mem ((areFor.mem_iff first).mp isFirst),
        List.idxOf_append_of_mem ((areFor.mem_iff second).mp isSecond)]
      exact less
    · intro first isFirst second isSecond
      have isOld := (areFor.mem_iff first).mp isFirst
      obtain rfl : second = (representation, target) := List.mem_singleton.mp isSecond
      rw [List.idxOf_append_of_mem isOld, List.idxOf_append_of_notMem isNew]
      exact Nat.lt_add_right _ (List.idxOf_lt_length_of_mem isOld)

theorem intern (areFor : all.AreFor pairs) (representation target : FieldType) :
    (all.intern representation target).2.AreFor (pairs ++ [(representation, target)]) := by
  by_cases known : (representation, target) ∈ all.map Converter.pair
  · obtain ⟨c, -, -, found⟩ := intern_of_mem known
    rw [found]
    exact areFor.of_known known
  · rw [intern_of_not_mem known]
    exact areFor.of_unknown known

end AreFor

/-- A pair gets a converter of its own, which is one of those that there are then. -/
theorem intern_spec (all : Converters) (representation target : FieldType) :
    (all.intern representation target).1.pair = (representation, target) ∧
      (all.intern representation target).1 ∈ (all.intern representation target).2 ∧
      all ⊆ (all.intern representation target).2 := by
  by_cases known : (representation, target) ∈ all.map Converter.pair
  · obtain ⟨c, isMember, isPair, found⟩ := intern_of_mem known
    rw [found]
    exact ⟨isPair, isMember, List.Subset.refl all⟩
  · rw [intern_of_not_mem known]
    exact ⟨rfl, by simp, List.subset_append_left _ _⟩

/-! ## One type -/

theorem internFor_eq (all : Converters) (type : FieldType) :
    all.internFor type =
      match type.conversion? with
      | some (representation, target) =>
        (some (all.intern representation target).1, (all.intern representation target).2)
      | none => (none, all) := by
  cases type <;> rfl

theorem AreFor.internFor {pairs : List (FieldType × FieldType)} (areFor : all.AreFor pairs)
    (type : FieldType) : (all.internFor type).2.AreFor (pairs ++ type.conversion?.toList) := by
  rw [internFor_eq]
  cases type.conversion? with
  | none =>
    rw [Option.toList_none, List.append_nil]
    exact areFor
  | some pair => exact areFor.intern pair.1 pair.2

theorem internFor_spec (all : Converters) (type : FieldType) :
    (all.internFor type).1.map Converter.pair = type.conversion? ∧
      (∀ c ∈ (all.internFor type).1, c ∈ (all.internFor type).2) ∧
      all ⊆ (all.internFor type).2 := by
  rw [internFor_eq]
  cases type.conversion? with
  | none => exact ⟨rfl, nofun, List.Subset.refl all⟩
  | some pair =>
    obtain ⟨isPair, isMember, keeps⟩ := all.intern_spec pair.1 pair.2
    refine ⟨congrArg some isPair, ?_, keeps⟩
    rintro _ ⟨⟩
    exact isMember

/-! ## Types one after the other -/

theorem internForEach_append (all : Converters) (types more : List FieldType) :
    all.internForEach (types ++ more) =
      ((all.internForEach types).1 ++ ((all.internForEach types).2.internForEach more).1,
        ((all.internForEach types).2.internForEach more).2) := by
  induction types generalizing all with
  | nil => rfl
  | cons type rest inductionHypothesis =>
    simp only [List.cons_append, internForEach, inductionHypothesis]

theorem areFor_internForEach {pairs : List (FieldType × FieldType)} (areFor : all.AreFor pairs)
    (types : List FieldType) :
    (all.internForEach types).2.AreFor (pairs ++ types.filterMap FieldType.conversion?) := by
  induction types generalizing all pairs with
  | nil => simpa [internForEach] using areFor
  | cons type rest inductionHypothesis =>
    have later := inductionHypothesis (areFor.internFor type)
    have split : (type :: rest).filterMap FieldType.conversion? =
        type.conversion?.toList ++ rest.filterMap FieldType.conversion? := by
      cases needed : type.conversion? <;> simp [needed]
    rw [split, ← List.append_assoc]
    exact later

/-- Whether a converter is what a type needs, and one of some converters. -/
def Serve (all : Converters) (type : FieldType) (converter : Option Converter) : Prop :=
  converter.map Converter.pair = type.conversion? ∧ ∀ c ∈ converter, c ∈ all

/-- By induction on the types, as no converter goes away later. -/
theorem serve_internForEach (all : Converters) (types : List FieldType) :
    List.Forall₂ (all.internForEach types).2.Serve types (all.internForEach types).1 ∧
      all ⊆ (all.internForEach types).2 := by
  induction types generalizing all with
  | nil => exact ⟨.nil, List.Subset.refl all⟩
  | cons type rest inductionHypothesis =>
    obtain ⟨isPair, isMember, keeps⟩ := all.internFor_spec type
    obtain ⟨others, keepsLater⟩ := inductionHypothesis (all.internFor type).2
    exact ⟨.cons ⟨isPair, fun c isFirst => keepsLater (isMember c isFirst)⟩ others,
      List.Subset.trans keeps keepsLater⟩

/-! ## Pairs one after the other -/

/-- Pairs that are new get the numbers that follow. -/
theorem internAll_of_new {done rest : Converters}
    (ids : (done ++ rest).map Converter.id = List.range (done ++ rest).length)
    (nodup : ((done ++ rest).map Converter.pair).Nodup) :
    internAll done (rest.map Converter.pair) = (rest, done ++ rest) := by
  induction rest generalizing done with
  | nil => simp [internAll]
  | cons c rest inductionHypothesis =>
    have isNumbered : c.id = done.length := by
      have found := congrArg (fun ids => ids[done.length]?) ids
      simpa using found
    have isNew : (c.representation, c.target) ∉ done.map Converter.pair := by
      rw [List.map_append, List.nodup_append] at nodup
      exact fun isOld => nodup.2.2 _ isOld c.pair (by simp) rfl
    have made : (⟨done.length, c.representation, c.target⟩ : Converter) = c := by
      rw [← isNumbered]
    have later : internAll (done ++ [c]) (rest.map Converter.pair) = (rest, done ++ [c] ++ rest) :=
      inductionHypothesis (by simpa using ids) (by simpa using nodup)
    rw [List.map_cons, Converter.pair, internAll, intern_of_not_mem isNew, made]
    simp only [later, List.append_assoc, List.singleton_append]

/-- Made again from nothing, the converters are the same. -/
theorem AreFor.internAll_pairs {pairs : List (FieldType × FieldType)} (areFor : all.AreFor pairs) :
    internAll [] (all.map Converter.pair) = (all, all) :=
  internAll_of_new areFor.ids areFor.nodup

end Converters

/-! ## Through a layout -/

def usableTypes (parts : List LayoutPart) : List FieldType :=
  (parts.filterMap LayoutPart.usable?).map UsableField.type

theorem usableTypes_append (parts more : List LayoutPart) :
    usableTypes (parts ++ more) = usableTypes parts ++ usableTypes more := by
  simp [usableTypes]

/-- Whether properties and converters come from going through the types of parts, from some
    converters on. -/
def GoesThrough (parts : List LayoutPart) (all : Converters) (properties : List Property)
    (after : Converters) : Prop :=
  all.internForEach (usableTypes parts) = (properties.map Property.converter, after)

theorem GoesThrough.append {parts more : List LayoutPart} {all between after : Converters}
    {properties others : List Property} (first : GoesThrough parts all properties between)
    (second : GoesThrough more between others after) :
    GoesThrough (parts ++ more) all (properties ++ others) after := by
  unfold GoesThrough at *
  rw [usableTypes_append, Converters.internForEach_append, first, second, List.map_append]

theorem Field.properties_goThrough (site : PlacedCategory) (start : Nat) (all : Converters)
    (fields : List Field) :
    GoesThrough ((fields.zipIdx start).map fun (field, index) => .field ⟨site, index, field⟩) all
      (Field.properties site.path all fields).1 (Field.properties site.path all fields).2 := by
  unfold GoesThrough usableTypes
  induction fields generalizing start all with
  | nil => rfl
  | cons f rest inductionHypothesis =>
    simp only [List.zipIdx_cons, List.map_cons, List.filterMap_cons, LayoutPart.usable?,
      Field.properties]
    cases f.resolved? with
    | none => exact inductionHypothesis (start + 1) all
    | some typed =>
      have later := inductionHypothesis (start + 1) (all.internFor typed.1).2
      simp only [Option.map_some, List.map_cons, Converters.internForEach, later]

theorem MetaCategory.properties_goThrough {siblings : List Category} {above : List Category}
    (each : ∀ c ∈ siblings, ∀ place all,
      GoesThrough (c.parts place above) all
        (c.metadata (above.map Category.ident) all).1.propertiesInside
        (c.metadata (above.map Category.ident) all).2)
    (index : Nat) (place : List Nat) (all : Converters) :
    GoesThrough (Category.partsFrom index place above siblings) all
      (MetaCategory.propertiesAmong
        (Category.metadataAll (above.map Category.ident) all siblings).1)
      (Category.metadataAll (above.map Category.ident) all siblings).2 := by
  induction siblings generalizing index all with
  | nil => rfl
  | cons c rest inductionHypothesis =>
    simp only [Category.partsFrom, Category.metadataAll, MetaCategory.propertiesAmong]
    exact (each c List.mem_cons_self _ _).append
      (inductionHypothesis (fun other member => each other (List.mem_cons_of_mem c member)) _ _)

/-- By induction on the category: children first, then its own fields. -/
theorem Category.metadata_goesThrough (c : Category) (above : List Category) (place : List Nat)
    (all : Converters) :
    GoesThrough (c.parts place above) all
      (c.metadata (above.map Category.ident) all).1.propertiesInside
      (c.metadata (above.map Category.ident) all).2 := by
  induction c using Category.induction generalizing above place all with
  | step c inductionHypothesis =>
    have pathEq : above.map Category.ident ++ [c.ident] = (above ++ [c]).map Category.ident := by
      simp
    have children := MetaCategory.properties_goThrough
      (fun child member => inductionHypothesis child member (above ++ [c])) 0 place all
    have fields := fun handedOn =>
      Field.properties_goThrough ⟨place, above, c⟩ 0 handedOn c.fields
    rw [← pathEq] at children
    simp only [PlacedCategory.path, PlacedCategory.trail, ← pathEq] at fields
    have last : ∀ after, GoesThrough [.category ⟨place, above, c⟩] after [] after := fun _ => rfl
    have all := (children.append (fields _)).append (last _)
    cases c
    simp only [Category.parts, Category.metadata, MetaCategory.propertiesInside]
    rwa [List.append_nil] at all

theorem Layout.metadata_goesThrough (l : Layout) :
    GoesThrough l.parts [] (Metadata.ofLayout l).properties (Metadata.ofLayout l).converters := by
  have each : ∀ c ∈ l.categories, ∀ place all,
      GoesThrough (c.parts place []) all
        (c.metadata (List.map Category.ident []) all).1.propertiesInside
        (c.metadata (List.map Category.ident []) all).2 :=
    fun c _ place all => c.metadata_goesThrough [] place all
  exact MetaCategory.properties_goThrough each 0 [] []

/-! ## The converters of metadata -/

theorem Layout.conversions_eq (l : Layout) :
    l.conversions = (usableTypes l.parts).filterMap FieldType.conversion? := by
  rw [usableTypes, List.filterMap_map]
  rfl

theorem Layout.converters_areFor (l : Layout) :
    (Metadata.ofLayout l).converters.AreFor l.conversions := by
  have areFor := Converters.areFor_internForEach Converters.areFor_nil (usableTypes l.parts)
  rwa [l.metadata_goesThrough, List.nil_append, ← l.conversions_eq] at areFor

/-- Every property has the converter that its type needs, if it needs one. -/
theorem Layout.converters_serve (l : Layout) :
    ∀ p ∈ (Metadata.ofLayout l).properties,
      p.representation = p.type.representation ∧
        (Metadata.ofLayout l).converters.Serve p.type p.converter := by
  have kept := l.properties_forall₂
  have served := (Converters.serve_internForEach [] (usableTypes l.parts)).1
  have types : usableTypes l.parts = (Metadata.ofLayout l).properties.map Property.type := by
    refine (map_eq_map_of_forall₂ ?_).symm
    exact kept.imp fun u p isKept => isKept.type
  rw [l.metadata_goesThrough, types, List.forall₂_map_left_iff, List.forall₂_map_right_iff,
    List.forall₂_same] at served
  intro p isProperty
  obtain ⟨u, -, isKept⟩ := exists_of_mem_right kept isProperty
  exact ⟨by rw [isKept.representation, isKept.type], served p isProperty⟩

end ConfigBinding
