import ConfigBinding.Proofs.Decimal.WholeDoubles
import ConfigBinding.Proofs.Layout.MarkerOrder
import ConfigBinding.Proofs.Types.Fit

/-!
# Which default counts, and how it is changed

The kinds of default markers have a rank, and the first marker of the highest kind present gives the
default of a declaration. The literal in it is taken as it is if it fits. Otherwise its ints become
the doubles equal to them where only this is missing, and where more is missing the zero value takes
its place.

* `Element.IsDefaultMarker`: the marker that counts, wherever it stands among the others;
* `Value.Adapts`: a value of the same items, only ints among them replaced by equal doubles;
* `Element.HasDefault`: the default of a declaration, rule by rule;
* `defaults_change_only_losslessly`: every usable type has exactly this default.
-/

namespace ConfigBinding

/-! ## The marker that counts -/

/-- The kinds of default markers, the one that counts most first. -/
def Marker.Kind.defaults : List Marker.Kind :=
  [.defaultBoolean, .defaultInt, .defaultDouble, .defaultString]

def Marker.default? : Marker → Option Value
  | .defaultBoolean literal => some (literal.toValue .boolean)
  | .defaultInt literal => some (literal.toValue .int)
  | .defaultDouble literal => some (literal.toValue .double)
  | .defaultString literal => some (literal.toValue .string)
  | .config .. | .exclude | .requiresRestart _ | .range .. | .onSync => none

def Marker.defaultOf? (kind : Marker.Kind) (m : Marker) : Option Value :=
  if m.kind = kind then m.default? else none

/-- Whether a marker of a declaration counts as its default: the first of its kind, where no kind
    that counts more has a marker. -/
structure Element.IsDefaultMarker (e : Element) (m : Marker) : Prop where
  isFirst : ∃ before after, e.markers = before ++ m :: after ∧
    ∀ earlier ∈ before, earlier.kind ≠ m.kind
  isHighest : ∃ higher lower, Marker.Kind.defaults = higher ++ m.kind :: lower ∧
    ∀ other ∈ e.markers, other.kind ∉ higher

/-- Whether a declaration has a raw default, the literal of the marker that counts. -/
def Element.DeclaresDefault (e : Element) (raw : Value) : Prop :=
  ∃ m, e.IsDefaultMarker m ∧ m.default? = some raw

theorem Marker.default?_eq_none {m : Marker} :
    m.default? = none ↔ m.kind ∉ Marker.Kind.defaults := by
  cases m <;> simp [default?, kind, Kind.defaults]

theorem Marker.defaultOf?_eq_none {kind : Marker.Kind} (isDefault : kind ∈ Marker.Kind.defaults)
    {m : Marker} : Marker.defaultOf? kind m = none ↔ m.kind ≠ kind := by
  unfold defaultOf?
  split
  next same =>
    rw [Marker.default?_eq_none, same]
    exact iff_of_false (not_not_intro isDefault) (not_not_intro rfl)
  next other => exact iff_of_true rfl other

theorem Marker.defaultOf?_eq_some {kind : Marker.Kind} {m : Marker} {raw : Value} :
    Marker.defaultOf? kind m = some raw ↔ m.kind = kind ∧ m.default? = some raw :=
  Option.ite_none_right_eq_some

/-- The kinds are tried by rank, and each of them among the markers in their order. -/
theorem Element.explicitDefault?_eq (e : Element) :
    e.explicitDefault? =
      Marker.Kind.defaults.findSome? fun kind => e.markers.findSome? (Marker.defaultOf? kind) := by
  have views : ∀ (kind : Marker.Kind) (view : Marker → Option Value),
      (∀ m, view m = Marker.defaultOf? kind m) →
        e.marker? view = e.markers.findSome? (Marker.defaultOf? kind) := by
    intro kind view same
    rw [marker?, funext same]
  have ranked : Marker.Kind.defaults =
      [.defaultBoolean] ++ ([.defaultInt] ++ ([.defaultDouble] ++ [.defaultString])) := rfl
  simp only [explicitDefault?, Option.orElse_eq_orElse, Option.orElse_eq_or, ranked,
    List.findSome?_append, List.findSome?_singleton]
  rw [views .defaultBoolean _ (fun m => by cases m <;> rfl),
    views .defaultInt _ (fun m => by cases m <;> rfl),
    views .defaultDouble _ (fun m => by cases m <;> rfl),
    views .defaultString _ (fun m => by cases m <;> rfl)]

theorem Element.explicitDefault?_eq_none {e : Element} :
    e.explicitDefault? = none ↔ ∀ m ∈ e.markers, m.kind ∉ Marker.Kind.defaults := by
  rw [explicitDefault?_eq, List.findSome?_eq_none_iff]
  simp only [List.findSome?_eq_none_iff]
  constructor
  · intro noneFound m isMarker isDefault
    exact (Marker.defaultOf?_eq_none isDefault).mp (noneFound m.kind isDefault m isMarker) rfl
  · intro noDefault kind isDefault m isMarker
    refine (Marker.defaultOf?_eq_none isDefault).mpr ?_
    rintro rfl
    exact noDefault m isMarker isDefault

theorem Marker.Kind.mem_defaults_of_ranked {kind : Marker.Kind} {higher lower : List Marker.Kind}
    (ranked : Marker.Kind.defaults = higher ++ kind :: lower) :
    kind ∈ Marker.Kind.defaults ∧ higher ⊆ Marker.Kind.defaults := by
  simp [ranked]

/-- The default that is found is the literal of the marker that counts. -/
theorem Element.explicitDefault?_eq_some {e : Element} {raw : Value} :
    e.explicitDefault? = some raw ↔ e.DeclaresDefault raw := by
  rw [explicitDefault?_eq, List.findSome?_eq_some_iff]
  simp only [List.findSome?_eq_none_iff, List.findSome?_eq_some_iff]
  constructor
  · rintro ⟨higher, kind, lower, ranked, ⟨before, m, after, split, found, noneBefore⟩, noneHigher⟩
    obtain ⟨rfl, isRaw⟩ := Marker.defaultOf?_eq_some.mp found
    obtain ⟨ofKind, known⟩ := Marker.Kind.mem_defaults_of_ranked ranked
    refine ⟨m, ⟨⟨before, after, split, fun earlier isBefore => ?_⟩, higher, lower, ranked,
      fun other isMarker isHigher => ?_⟩, isRaw⟩
    · exact (Marker.defaultOf?_eq_none ofKind).mp (noneBefore earlier isBefore)
    · have noneFound := noneHigher other.kind isHigher other isMarker
      exact (Marker.defaultOf?_eq_none (known isHigher)).mp noneFound rfl
  · rintro ⟨m, ⟨⟨before, after, split, isFirst⟩, higher, lower, ranked, isHighest⟩, isRaw⟩
    obtain ⟨ofKind, known⟩ := Marker.Kind.mem_defaults_of_ranked ranked
    refine ⟨higher, m.kind, lower, ranked, ⟨before, m, after, split,
      Marker.defaultOf?_eq_some.mpr ⟨rfl, isRaw⟩, fun earlier isBefore => ?_⟩,
      fun kind isHigher other isMarker => (Marker.defaultOf?_eq_none (known isHigher)).mpr ?_⟩
    · exact (Marker.defaultOf?_eq_none ofKind).mpr (isFirst earlier isBefore)
    · rintro rfl
      exact isHighest other isMarker isHigher

/-! ## Values adapted to a type -/

/-- Whether an item of a value becomes another: one that fits is kept, and only an int becomes
    anything else, which is the double equal to it. -/
inductive Value.AdaptsItem (type : FieldType) : Value → Value → Prop where
  | kept {item : Value} (fits : item.conforms type) : AdaptsItem type item item
  | widened {n : Int32} {d : Double} (unfit : ¬ (Value.int n).conforms type)
    (equal : d.IsWhole n.toInt) : AdaptsItem type (.int n) (.double d)

/-- Whether a value becomes another, a list item by item in the same order. -/
inductive Value.Adapts (type : FieldType) : Value → Value → Prop where
  | scalar {value adapted : Value} (noItems : type.isArrayLike = false)
    (item : value.AdaptsItem type adapted) : Adapts type value adapted
  | list {component : FieldType} {items adapted : List Value}
    (isComponent : component ∈ type.component?)
    (each : List.Forall₂ (AdaptsItem component) items adapted) :
    Adapts type (.array items) (.array adapted)

section

variable {type component : FieldType} {value adapted : Value}

theorem FieldType.isArrayLike_of_component (isComponent : component ∈ type.component?) :
    type.isArrayLike = true := by
  rw [isArrayLike, isComponent]
  rfl

theorem Value.adapts_scalar (noItems : type.isArrayLike = false) :
    value.Adapts type adapted ↔ value.AdaptsItem type adapted := by
  refine ⟨fun adapts => ?_, .scalar noItems⟩
  cases adapts with
  | scalar _ item => exact item
  | list isComponent _ =>
    rw [FieldType.isArrayLike_of_component isComponent] at noItems
    cases noItems

theorem Value.adapts_list (isComponent : component ∈ type.component?) :
    value.Adapts type adapted ↔ ∃ items, value = .array items ∧ ∃ others, adapted = .array others ∧
      List.Forall₂ (AdaptsItem component) items others := by
  constructor
  · intro adapts
    cases adapts with
    | scalar noItems _ =>
      rw [FieldType.isArrayLike_of_component isComponent] at noItems
      cases noItems
    | list same each =>
      obtain rfl := Option.mem_unique isComponent same
      exact ⟨_, rfl, _, rfl, each⟩
  · rintro ⟨items, rfl, others, rfl, each⟩
    exact .list isComponent each

/-! ## Widening -/

/-- Where there are no items, only an int is widened. -/
theorem Value.exists_int_of_widen? (noItems : type.isArrayLike = false)
    (widens : value.widen? type = some adapted) :
    ∃ n : Int32, value = .int n ∧ adapted = .double (.ofInt n.toInt) := by
  cases type with
  | double =>
    cases value with
    | int n =>
      cases widens
      exact ⟨n, rfl, rfl⟩
    | boolean | double | string | array | collection => cases widens
  | boolean | int | string | unknown name => cases widens
  | array | collection => cases noItems

/-- A value fits a type without items as what it becomes there, if this fits at all. -/
theorem Value.fit?_eq_some_iff_adaptsItem (noItems : type.isArrayLike = false) :
    value.fit? type = some adapted ↔ value.AdaptsItem type adapted ∧ adapted.conforms type := by
  constructor
  · intro fits
    refine ⟨?_, Value.fit?_conforms fits⟩
    unfold Value.fit? at fits
    split at fits
    next conforms =>
      cases fits
      exact .kept conforms
    next unfit =>
      obtain ⟨n, rfl, rfl⟩ := Value.exists_int_of_widen? noItems fits
      exact .widened unfit (Double.isWhole_int32.mpr rfl)
  · rintro ⟨becomes, fits⟩
    cases becomes with
    | kept conforms => exact Value.fit?_of_conforms conforms
    | widened unfit equal =>
      cases Double.isWhole_int32.mp equal
      cases type with
      | double => rfl
      | boolean | int | string | unknown name => cases fits
      | array | collection => cases noItems

theorem Value.mapM_fit?_eq_some (noItems : component.isArrayLike = false)
    {items others : List Value} :
    (items.mapM fun (item : Value) => item.fit? component) = some others ↔
      List.Forall₂ (AdaptsItem component) items others ∧
        ∀ item ∈ others, item.conforms component := by
  rw [mapM_eq_some]
  simp only [Value.fit?_eq_some_iff_adaptsItem noItems]
  constructor
  · intro each
    refine ⟨each.imp fun _ _ fits => fits.1, fun item isItem => ?_⟩
    obtain ⟨_, -, fits⟩ := exists_of_mem_right each isItem
    exact fits.2
  · rintro ⟨each, conform⟩
    have both := (List.forall₂_and_left others items).mpr ⟨conform, each.flip⟩
    exact both.flip.imp fun _ _ fits => fits.symm

theorem Value.widen?_eq_some_list (isComponent : component ∈ type.component?) :
    value.widen? type = some adapted ↔ ∃ items, value = .array items ∧ ∃ others,
      adapted = .array others ∧
        (items.mapM fun (item : Value) => item.fit? component) = some others := by
  have widened : ∀ items, (Value.array items).widen? type =
      (items.mapM fun (item : Value) => item.fit? component).map .array := by
    intro items
    cases type <;> cases isComponent <;> rfl
  constructor
  · intro widens
    by_cases isList : ∃ items, value = .array items
    · obtain ⟨items, rfl⟩ := isList
      obtain ⟨others, made, rfl⟩ := Option.map_eq_some_iff.mp ((widened items).symm.trans widens)
      exact ⟨items, rfl, others, rfl, made⟩
    · have stays : value.widen? type = none := by
        cases type <;> cases isComponent <;> cases value <;>
          first | rfl | exact absurd ⟨_, rfl⟩ isList
      rw [stays] at widens
      cases widens
  · rintro ⟨items, rfl, others, rfl, made⟩
    rw [widened, made, Option.map_some]

theorem Value.conforms_array (isComponent : component ∈ type.component?) (items : List Value) :
    (Value.array items).conforms type ↔ ∀ item ∈ items, item.conforms component := by
  rw [← List.all_eq_true]
  cases type <;> cases isComponent <;> rfl

/-- Widening finds the value adapted to a valid type, if there is one that fits. -/
theorem Value.widen?_eq_some_iff_adapts (valid : type.validate = .ok ())
    (unfit : ¬ value.conforms type) :
    value.widen? type = some adapted ↔ value.Adapts type adapted ∧ adapted.conforms type := by
  cases hasItems : type.component? with
  | none =>
    have noItems : type.isArrayLike = false := by
      rw [FieldType.isArrayLike, hasItems]
      rfl
    have asItem : value.widen? type = value.fit? type := by rw [Value.fit?, if_neg unfit]
    rw [asItem, Value.fit?_eq_some_iff_adaptsItem noItems, Value.adapts_scalar noItems]
  | some component =>
    have noItems := (FieldType.component_of_validate valid hasItems).1
    rw [Value.widen?_eq_some_list hasItems, Value.adapts_list hasItems]
    simp only [Value.mapM_fit?_eq_some noItems]
    constructor
    · rintro ⟨items, rfl, others, rfl, each, conform⟩
      exact ⟨⟨items, rfl, others, rfl, each⟩, (Value.conforms_array hasItems others).mpr conform⟩
    · rintro ⟨⟨items, rfl, others, rfl, each⟩, conforms⟩
      exact ⟨items, rfl, others, rfl, each, (Value.conforms_array hasItems others).mp conforms⟩

end

/-! ## Resolved defaults -/

/-- Whether a declaration has a default of a type: zero if it declares none, else its literal. One
    that does not fit is adapted, or replaced by zero where no adapted value fits, and is reported
    as a mismatch in both cases. -/
inductive Element.HasDefault (e : Element) (type : FieldType) : ResolvedDefault → Prop where
  | undeclared {zero : Value} (noDefault : ∀ m ∈ e.markers, m.kind ∉ Marker.Kind.defaults)
    (isZero : type.zero? = some zero) : HasDefault e type ⟨zero, none⟩
  | fitting {raw : Value} (declared : e.DeclaresDefault raw)
    (fits : (type.extract raw).conforms type) : HasDefault e type ⟨type.extract raw, none⟩
  | adapted {raw value : Value} (declared : e.DeclaresDefault raw)
    (unfit : ¬ (type.extract raw).conforms type) (adapts : (type.extract raw).Adapts type value)
    (fits : value.conforms type) :
    HasDefault e type ⟨value, some ⟨(type.extract raw).describe, type.representation.text⟩⟩
  | replaced {raw zero : Value} (declared : e.DeclaresDefault raw)
    (unfit : ¬ (type.extract raw).conforms type)
    (noneFits : ∀ value, (type.extract raw).Adapts type value → ¬ value.conforms type)
    (isZero : type.zero? = some zero) :
    HasDefault e type ⟨zero, some ⟨(type.extract raw).describe, type.representation.text⟩⟩

section

variable {e : Element} {type : FieldType}

theorem Element.exists_hasDefault (e : Element) (valid : type.validate = .ok ()) :
    ∃ resolved, e.HasDefault type resolved := by
  obtain ⟨zero, isZero⟩ := Option.isSome_iff_exists.mp (FieldType.zero?_of_validate valid)
  cases found : e.explicitDefault? with
  | none => exact ⟨_, .undeclared (explicitDefault?_eq_none.mp found) isZero⟩
  | some raw =>
    have declared := explicitDefault?_eq_some.mp found
    by_cases fits : (type.extract raw).conforms type
    · exact ⟨_, .fitting declared fits⟩
    · by_cases adaptable : ∃ value, (type.extract raw).Adapts type value ∧ value.conforms type
      · obtain ⟨value, adapts, valueFits⟩ := adaptable
        exact ⟨_, .adapted declared fits adapts valueFits⟩
      · exact ⟨_, .replaced declared fits (by simpa using adaptable) isZero⟩

/-- A declaration has one default of a type, and this is what it resolves to. -/
theorem Element.resolveDefault?_of_hasDefault (valid : type.validate = .ok ())
    {resolved : ResolvedDefault} (hasDefault : e.HasDefault type resolved) :
    e.resolveDefault? type = some resolved := by
  obtain ⟨zero, isZero⟩ := Option.isSome_iff_exists.mp (FieldType.zero?_of_validate valid)
  rw [resolveDefault?, isZero, Option.map_some]
  cases hasDefault with
  | undeclared noDefault known =>
    cases isZero.symm.trans known
    rw [explicitDefault?_eq_none.mpr noDefault]
  | fitting declared fits =>
    rw [explicitDefault?_eq_some.mpr declared]
    simp only [fits, ↓reduceIte]
  | adapted declared unfit adapts fits =>
    have widens := (Value.widen?_eq_some_iff_adapts valid unfit).mpr ⟨adapts, fits⟩
    rw [explicitDefault?_eq_some.mpr declared]
    simp only [unfit, widens, Option.getD_some, Bool.false_eq_true, ↓reduceIte]
  | @replaced raw _ declared unfit noneFits known =>
    cases isZero.symm.trans known
    have stays : (type.extract raw).widen? type = none := by
      rw [Option.eq_none_iff_forall_ne_some]
      intro value widens
      obtain ⟨adapts, fits⟩ := (Value.widen?_eq_some_iff_adapts valid unfit).mp widens
      exact noneFits value adapts fits
    rw [explicitDefault?_eq_some.mpr declared]
    simp only [unfit, stays, Option.getD_none, Bool.false_eq_true, ↓reduceIte]

end

theorem FieldType.extract_array {type : FieldType} (hasItems : type.isArrayLike)
    (items : List Value) : type.extract (.array items) = .array items := by
  simp only [extract, hasItems, ↓reduceIte]

/-- Every declaration has a default of every usable type, and exactly this is resolved: the zero
    value where nothing is declared, else the literal of the first marker of the highest kind. A
    literal that does not fit is reported. Its items stay in their places, those that fit as they
    are and ints as equal doubles, if the result fits; if it does not, the default is zero. A list
    literal is passed on whole to every type that has items. -/
theorem defaults_change_only_losslessly (e : Element) (type : FieldType) :
    (type.validate = .ok () →
      (∃ resolved, e.resolveDefault? type = some resolved) ∧
        ∀ resolved, e.resolveDefault? type = some resolved ↔ e.HasDefault type resolved) ∧
      (type.isArrayLike → ∀ items, type.extract (.array items) = .array items) := by
  refine ⟨fun valid => ?_, FieldType.extract_array⟩
  obtain ⟨resolved, hasDefault⟩ := e.exists_hasDefault valid
  have found := Element.resolveDefault?_of_hasDefault valid hasDefault
  refine ⟨⟨resolved, found⟩, fun other => ⟨fun otherFound => ?_, ?_⟩⟩
  · cases found.symm.trans otherFound
    exact hasDefault
  · exact Element.resolveDefault?_of_hasDefault valid

/-- The markers of a field that contradict each other. -/
def kettleHeat : Element where
  name := "heat"
  modifiers := .publicStatic
  markers :=
    [.defaultString (.one "hot"), .range .zero .zero, .defaultInt (.many [1, -3]),
      .defaultDouble (.one .zero), .defaultInt (.one 9)]

theorem kettleHeat_keeps_its_ints :
    (FieldType.array .double).validate = .ok () ∧
      kettleHeat.resolveDefault? (.array .double) =
        some ⟨.array [.double (.ofInt 1), .double (.ofInt (-3))], some ⟨"int[]", "double[]"⟩⟩ ∧
      (FieldType.array .string).validate = .ok () ∧
      kettleHeat.resolveDefault? (.array .string) =
        some ⟨.array [], some ⟨"int[]", "String[]"⟩⟩ ∧
      (FieldType.array .string).isArrayLike ∧
      (FieldType.array .string).extract (.array [.int 1, .int (-3)]) =
        .array [.int 1, .int (-3)] := by
  have declared : kettleHeat.DeclaresDefault (.array [.int 1, .int (-3)]) := by
    refine ⟨.defaultInt (.many [1, -3]), ⟨?_, ?_⟩, rfl⟩
    · exact ⟨[.defaultString (.one "hot"), .range .zero .zero], _, rfl, by decide⟩
    · exact ⟨[.defaultBoolean], _, rfl, by decide⟩
  obtain ⟨ofDoubles, -⟩ := defaults_change_only_losslessly kettleHeat (.array .double)
  obtain ⟨ofStrings, whole⟩ := defaults_change_only_losslessly kettleHeat (.array .string)
  refine ⟨rfl, ((ofDoubles rfl).2 _).mpr ?_, rfl, ((ofStrings rfl).2 _).mpr ?_, rfl, whole rfl _⟩
  · refine .adapted declared nofun (.list rfl ?_) rfl
    exact .cons (.widened nofun (Double.isWhole_int32.mpr rfl))
      (.cons (.widened nofun (Double.isWhole_int32.mpr rfl)) .nil)
  · refine .replaced declared nofun (fun value adapts fits => ?_) rfl
    cases adapts with
    | scalar noItems _ => cases noItems
    | list isComponent each =>
      cases isComponent
      cases each with
      | cons first _ =>
        cases first with
        | kept conforms => cases conforms
        | widened _ _ => cases fits

end ConfigBinding
