import ConfigBinding.Binding.TypedAccess
import ConfigBinding.Proofs.Store.Settings
import ConfigBinding.Proofs.Types.Texts

/-!
# Typed access agrees with values

Generated code reads settings and properties in host types, while bindings that run in place read
them as values. A value in the shape of an accessor always has a host value, so nothing is ever
replaced by the value that a typed reader hands out when it finds nothing.

* `StoreProperty.Reads`: what a stored setting is read as, rule by rule;
* `Accessor.hostValue`, `Accessor.convert_of_conforms`: the host value of a value, item by item;
* `typed_access_agrees`: typed readers hand out the host values of what is read untyped.
-/

namespace ConfigBinding

/-! ## What is read -/

/-- Whether a value is taken for a type, as it is or widened. -/
inductive Value.FitsAs (type : FieldType) : Value → Value → Prop where
  | conforming {value : Value} (conforms : value.conforms type) : FitsAs type value value
  | widened {value wide : Value} (unfit : ¬ value.conforms type)
    (widens : value.widen? type = some wide) : FitsAs type value wide

/-- Whether a setting is read as a value: the stored value if it fits, else the default if that
    fits, else the zero value. -/
inductive StoreProperty.Reads (p : StoreProperty) (type : FieldType) : Value → Prop where
  | stored {value raw : Value} (isStored : p.value = some value) (fits : value.FitsAs type raw) :
    Reads p type raw
  | default {default raw : Value} (noValue : ∀ value ∈ p.value, ∀ raw, ¬ value.FitsAs type raw)
    (isDefault : p.default = some default) (fits : default.FitsAs type raw) : Reads p type raw
  | zero {zero : Value} (noValue : ∀ value ∈ p.value, ∀ raw, ¬ value.FitsAs type raw)
    (noDefault : ∀ default ∈ p.default, ∀ raw, ¬ default.FitsAs type raw)
    (isZero : type.zero? = some zero) : Reads p type zero

theorem Value.fit?_eq_some {type : FieldType} {value raw : Value} :
    value.fit? type = some raw ↔ value.FitsAs type raw := by
  unfold Value.fit?
  constructor
  · intro fits
    split at fits
    next conforms =>
      cases fits
      exact .conforming conforms
    next unfit => exact .widened unfit fits
  · intro fits
    cases fits with
    | conforming conforms => exact if_pos conforms
    | widened unfit widens => rwa [if_neg unfit]

theorem unfit_of_bind_eq_none {type : FieldType} {candidate : Option Value}
    (none : (candidate.bind fun value => value.fit? type) = none) :
    ∀ value ∈ candidate, ∀ raw, ¬ value.FitsAs type raw := by
  intro value isCandidate raw fits
  rw [isCandidate, Option.bind_some, Value.fit?_eq_some.mpr fits] at none
  cases none

theorem StoreProperty.reads_read (p : StoreProperty) (a : Accessor) :
    p.Reads a.type (p.read a) := by
  obtain ⟨zero, isZero⟩ := a.zero?_type
  simp only [StoreProperty.read]
  cases fromValue : p.value.bind fun value => value.fit? a.type with
  | some raw =>
    obtain ⟨value, isStored, fits⟩ := Option.bind_eq_some_iff.mp fromValue
    exact .stored isStored (Value.fit?_eq_some.mp fits)
  | none =>
    have noValue := unfit_of_bind_eq_none fromValue
    cases fromDefault : p.default.bind fun value => value.fit? a.type with
    | some raw =>
      obtain ⟨default, isDefault, fits⟩ := Option.bind_eq_some_iff.mp fromDefault
      exact .default noValue isDefault (Value.fit?_eq_some.mp fits)
    | none =>
      simp only [isZero]
      exact .zero noValue (unfit_of_bind_eq_none fromDefault) isZero

/-! ## Host values -/

/-- The host value of a value in the shape of an accessor: a scalar as it is, or the items of a
    list in order. -/
def Accessor.hostValue (a : Accessor) (value : Value) : HostValue :=
  if a.isList then .vector ((value.asArray?.getD []).map .plain) else .plain value

/-- Every value in the shape of an accessor converts to the host type of the accessor. -/
theorem Accessor.convert_of_conforms {a : Accessor} {value : Value}
    (conforms : value.conforms a.type) : a.hostType.convert value = .ok (a.hostValue value) := by
  obtain ⟨scalar, isList⟩ := a
  cases isList with
  | false =>
    have isScalar : value.conforms scalar.toFieldType := conforms
    change ((scalar.convert value).map HostValue.plain : Except ShapeError HostValue) = _
    rw [ScalarType.convert_of_conforms isScalar]
    rfl
  | true =>
    cases value with
    | array items =>
      change (do return HostValue.vector (← items.mapM (HostType.scalar scalar).convert)) = _
      rw [ScalarType.mapM_convert_of_conform conforms]
      rfl
    | boolean | int | double | string | collection => cases conforms

theorem StoreProperty.readTyped_eq (p : StoreProperty) (a : Accessor) :
    p.readTyped a = a.hostValue (p.read a) := by
  rw [StoreProperty.readTyped, Accessor.convert_of_conforms (p.read_conforms a)]

theorem PropertySource.lookupTyped_eq {source : PropertySource} {key : String} {a : Accessor}
    {default : Value} (fits : default.conforms a.type) :
    source.lookupTyped key a default =
      ((source.lookup key a default).map a.hostValue).mapError .parse := by
  unfold PropertySource.lookupTyped
  cases found : source.lookup key a default with
  | error error => rfl
  | ok value =>
    have conforms := PropertySource.lookup_conforms fits found
    dsimp only
    rw [Accessor.convert_of_conforms conforms]
    rfl

/-- Typed readers hand out the host values of what is read untyped. A setting is read as the first
    of its value and its default that fits, or as zero, always in the shape of the accessor, and the
    conversion of it succeeds. Where the default has this shape, a property is looked up typed with
    the same result as untyped, or the same parse error. -/
theorem typed_access_agrees (a : Accessor) :
    (∀ p : StoreProperty,
      (p.read a).conforms a.type ∧ p.Reads a.type (p.read a) ∧
        a.hostType.convert (p.read a) = .ok (p.readTyped a) ∧
        p.readTyped a = a.hostValue (p.read a)) ∧
      ∀ (source : PropertySource) (key : String) (default : Value), default.conforms a.type →
        source.lookupTyped key a default =
            ((source.lookup key a default).map a.hostValue).mapError .parse ∧
          ∀ value, source.lookup key a default = .ok value →
            a.hostType.convert value = .ok (a.hostValue value) := by
  refine ⟨fun p => ?setting, fun source key default fits => ?property⟩
  case setting =>
    have conforms := p.read_conforms a
    refine ⟨conforms, p.reads_read a, ?_, p.readTyped_eq a⟩
    rw [p.readTyped_eq a]
    exact Accessor.convert_of_conforms conforms
  case property =>
    refine ⟨PropertySource.lookupTyped_eq fits, fun value found => ?_⟩
    exact Accessor.convert_of_conforms (PropertySource.lookup_conforms fits found)

/-- A setting of mixed numbers, with a default that is not read. -/
def mixedSetting : StoreProperty :=
  { value := some (.array [.int 1, .double .zero]), default := some (.array []) }

/-- Texts under two keys, of which only the first is one of a list of integers. -/
def mixedSource : PropertySource
  | "sizes" => some "4,5"
  | "broken" => some "1,x"
  | _ => none

theorem mixed_typed_access_agrees :
    mixedSetting.readTyped ⟨.double, true⟩ =
        .vector [.plain (.double (.ofInt 1)), .plain (.double .zero)] ∧
      (Value.array [.int 7]).conforms (Accessor.type ⟨.int, true⟩) ∧
      mixedSource.lookupTyped "sizes" ⟨.int, true⟩ (.array [.int 7]) =
        .ok (.vector [.plain (.int 4), .plain (.int 5)]) ∧
      mixedSource.lookupTyped "broken" ⟨.int, true⟩ (.array [.int 7]) =
        .error (.parse ⟨"broken", "x", .int⟩) ∧
      mixedSource.lookupTyped "other" ⟨.int, true⟩ (.array [.int 7]) =
        .ok (.vector [.plain (.int 7)]) := by
  have fits : (Value.array [.int 7]).conforms (Accessor.type ⟨.int, true⟩) := rfl
  have ofSetting := ((typed_access_agrees ⟨.double, true⟩).1 mixedSetting).2.2.2
  have ofKey := fun key =>
    ((typed_access_agrees ⟨.int, true⟩).2 mixedSource key (.array [.int 7]) fits).1
  refine ⟨ofSetting.trans rfl, fits, (ofKey "sizes").trans ?_, (ofKey "broken").trans ?_,
    (ofKey "other").trans rfl⟩
  · rfl
  · rfl

end ConfigBinding
