import ConfigBinding.Host
import ConfigBinding.Proofs.Lists
import ConfigBinding.Store.Basic

/-!
# Values that fit a type

What is kept, widened or read in the shape of a type has that shape, and what has the shape of a
usable type can be written to the host type that fits it.

* `Value.widen?_conforms`, `Value.fit?_conforms`: widening always lands in the shape;
* `FieldType.accessor?_of_validate`: a usable type is read in the shape of its representation;
* `FieldType.hostType_converts_realize`: a value built for a usable type converts to its host type.
-/

namespace ConfigBinding

/-! ## Representations -/

@[simp] theorem Value.conforms_representation (value : Value) (type : FieldType) :
    value.conforms type.representation = value.conforms type := by
  cases type <;> rfl

theorem Value.widen?_conforms {type : FieldType} {value widened : Value}
    (widens : value.widen? type = some widened) : widened.conforms type := by
  induction type generalizing value widened with
  | boolean | int | string | unknown name => simp [Value.widen?] at widens
  | double =>
    cases value <;> simp only [Value.widen?, Option.some.injEq, reduceCtorEq] at widens
    subst widens
    rfl
  | array component inductionHypothesis
  | collection container component construction inductionHypothesis =>
    cases value <;> simp only [Value.widen?, Option.map_eq_some_iff, reduceCtorEq] at widens
    obtain ⟨items, itemsWiden, rfl⟩ := widens
    refine List.all_eq_true.mpr fun item member => ?_
    obtain ⟨source, -, sourceWidens⟩ := exists_of_mem_right (mapM_eq_some.mp itemsWiden) member
    split at sourceWidens
    next conforms =>
      cases sourceWidens
      exact conforms
    next => exact inductionHypothesis sourceWidens

theorem Value.fit?_of_conforms {type : FieldType} {value : Value} (conforms : value.conforms type) :
    value.fit? type = some value := by
  simp [Value.fit?, conforms]

theorem Value.fit?_conforms {type : FieldType} {value fitting : Value}
    (fits : value.fit? type = some fitting) : fitting.conforms type := by
  unfold Value.fit? at fits
  split at fits
  next conforms =>
    cases fits
    exact conforms
  next => exact Value.widen?_conforms fits

theorem FieldType.zero?_conforms {type : FieldType} {zero : Value}
    (known : type.zero? = some zero) : zero.conforms type := by
  cases type <;> simp only [FieldType.zero?, Option.some.injEq, reduceCtorEq] at known <;>
    subst known <;> rfl

/-! ## Usable types -/

theorem ScalarType.scalar?_toFieldType {type : FieldType} {scalar : ScalarType}
    (isScalar : type.scalar? = some scalar) : scalar.toFieldType = type := by
  cases type <;> simp only [FieldType.scalar?, Option.some.injEq, reduceCtorEq] at isScalar <;>
    subst isScalar <;> rfl

/-- What a type is read as is its representation. -/
theorem FieldType.type_of_accessor? {type : FieldType} {accessor : Accessor}
    (readable : type.accessor? = some accessor) : accessor.type = type.representation := by
  cases type with
  | array component | collection container component construction =>
    simp only [FieldType.accessor?, Option.map_eq_some_iff] at readable
    obtain ⟨scalar, isScalar, rfl⟩ := readable
    simp [Accessor.type, FieldType.representation, ScalarType.scalar?_toFieldType isScalar]
  | boolean | int | double | string =>
    cases readable
    rfl
  | unknown name => cases readable

/-- A usable type can be read. -/
theorem FieldType.accessor?_of_validate {type : FieldType} (usable : type.validate = .ok ()) :
    ∃ accessor, type.accessor? = some accessor := by
  cases type with
  | array component | collection container component construction =>
    cases component <;> first | exact ⟨_, rfl⟩ | cases usable
  | boolean | int | double | string => exact ⟨_, rfl⟩
  | unknown name => cases usable

theorem FieldType.component_of_validate {type : FieldType} (valid : type.validate = .ok ())
    {component : FieldType} (isComponent : component ∈ type.component?) :
    component.isArrayLike = false ∧ ∀ name, component ≠ .unknown name := by
  cases type with
  | array inner | collection container inner construction =>
    cases isComponent
    cases component with
    | array | collection | unknown => cases valid
    | boolean | int | double | string => exact ⟨rfl, nofun⟩
  | boolean | int | double | string | unknown name => cases isComponent

theorem FieldType.zero?_of_validate {type : FieldType} (valid : type.validate = .ok ()) :
    type.zero?.isSome := by
  cases type with
  | unknown name => cases valid
  | boolean | int | double | string | array | collection => rfl

theorem Accessor.zero?_type (accessor : Accessor) : ∃ zero, accessor.type.zero? = some zero := by
  obtain ⟨scalar, isList⟩ := accessor
  cases isList <;> cases scalar <;> exact ⟨_, rfl⟩

/-! ## Host types -/

theorem ScalarType.convert_of_conforms {type : ScalarType} {value : Value}
    (conforms : value.conforms type.toFieldType) : type.convert value = .ok value := by
  simp [ScalarType.convert, conforms]

theorem ScalarType.mapM_convert_of_conform {type : ScalarType} {items : List Value}
    (conform : (Value.array items).conforms (.array type.toFieldType)) :
    items.mapM (HostType.scalar type).convert = .ok (items.map .plain) := by
  rw [mapM_eq_ok, List.forall₂_map_right_iff, List.forall₂_same]
  intro item member
  have itemConforms := List.all_eq_true.mp conform item member
  rw [HostType.convert, ScalarType.convert_of_conforms itemConforms]
  rfl

/-- Only the items of an array or collection matter to the list that it becomes. -/
theorem HostType.vector_converts_items {scalar : ScalarType} {value : Value} {items : List Value}
    (holds : value.items = .ok items)
    (conform : (Value.array items).conforms (.array scalar.toFieldType)) :
    ∃ converted, (HostType.vector (.scalar scalar)).convert value = .ok converted := by
  refine ⟨.vector (items.map .plain), ?_⟩
  rw [HostType.convert, holds]
  change (do return HostValue.vector (← items.mapM (HostType.scalar scalar).convert)) = _
  rw [ScalarType.mapM_convert_of_conform conform]
  rfl

/-- The value built for a usable type is accepted by the host type that fits it. -/
theorem FieldType.hostType_converts_realize {type : FieldType} {accessor : Accessor} {raw : Value}
    (readable : type.accessor? = some accessor) (conforms : raw.conforms type.representation) :
    ∃ converted, accessor.hostType.convert (type.realize raw) = .ok converted := by
  rw [← FieldType.type_of_accessor? readable] at conforms
  cases type with
  | array component | collection container component construction =>
    simp only [FieldType.accessor?, Option.map_eq_some_iff] at readable
    obtain ⟨scalar, -, rfl⟩ := readable
    cases raw <;> simp only [Accessor.type, ↓reduceIte, Value.conforms, Bool.false_eq_true]
      at conforms
    exact HostType.vector_converts_items rfl conforms
  | boolean | int | double | string =>
    cases readable
    exact ⟨.plain raw, by
      simp only [Accessor.hostType, HostType.convert, FieldType.realize, Bool.false_eq_true,
        ↓reduceIte]
      rw [ScalarType.convert_of_conforms conforms]
      rfl⟩
  | unknown name => cases readable

end ConfigBinding
