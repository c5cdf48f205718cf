import ConfigBinding.Proofs.Types.Fit
import ConfigBinding.Schema.Resolution

/-!
# Declared types that are usable

A declared type is usable exactly when it is flat: a leaf, an array of leaves, or a collection that
says in one way only which leaves it holds. The one argument of a named type comes before all of its
constructors, and the classes of scalars have neither.

* `DeclaredType.IsLeaf`, `DeclaredType.IsFlat`: what declarations of usable types look like;
* `DeclaredType.isLeaf_iff`, `DeclaredType.isFlat_iff`: they are those that are resolved to scalars
  and to valid types;
* `FieldType.isSome_accessor?`, `FieldType.validate_eq_nestedArray`: what validity means elsewhere;
* `flat_types_are_usable`: what is known of flat types and of all others.
-/

namespace ConfigBinding

namespace DeclaredType

def scalarClasses : List String :=
  ["java.lang.String", "java.lang.Integer", "java.lang.Boolean", "java.lang.Double"]

/-- Whether a declared type is a scalar. The arguments and constructors of a class do not matter. -/
inductive IsLeaf : DeclaredType → Prop where
  | primitive {name : String} (isScalar : name ∈ ["boolean", "int", "double"]) :
    IsLeaf (.primitive name)
  | declared {name : String} {args : List DeclaredType} {constructors : List (List DeclaredType)}
    (isScalar : name ∈ scalarClasses) : IsLeaf (.declared name args constructors)

/-- Whether a declared type is a leaf or holds leaves. A collection has exactly one argument, or
    else exactly one constructor that takes a single array. -/
inductive IsFlat : DeclaredType → Prop where
  | leaf {type : DeclaredType} (isLeaf : type.IsLeaf) : IsFlat type
  | array {component : DeclaredType} (isLeaf : component.IsLeaf) : IsFlat (.array component)
  | argument {name : String} {item : DeclaredType} {constructors : List (List DeclaredType)}
    (other : name ∉ scalarClasses) (isLeaf : item.IsLeaf) :
    IsFlat (.declared name [item] constructors)
  | constructor {name : String} {args : List DeclaredType} {before after : List (List DeclaredType)}
    {component : DeclaredType} (other : name ∉ scalarClasses) (notOne : args.length ≠ 1)
    (isLeaf : component.IsLeaf)
    (onlyOne : ∀ parameters ∈ before ++ after, ∀ inner, parameters ≠ [.array inner]) :
    IsFlat (.declared name args (before ++ [.array component] :: after))

end DeclaredType

/-! ## Valid types -/

namespace FieldType

variable {type : FieldType}

theorem validate_eq_ok : type.validate = .ok () ↔
    type.scalar?.isSome ∨ ∃ component ∈ type.component?, component.scalar?.isSome := by
  cases type with
  | array component | collection container component construction =>
    cases component <;> simp [validate, scalar?, component?]
  | boolean | int | double | string | unknown name => simp [validate, scalar?, component?]

/-- Exactly the valid types can be read. -/
theorem isSome_accessor? : type.accessor?.isSome ↔ type.validate = .ok () := by
  cases type with
  | array component | collection container component construction =>
    simp [validate_eq_ok, accessor?, scalar?, component?]
  | boolean | int | double | string | unknown name => simp [validate, accessor?, scalar?]

theorem validate_eq_nestedArray : type.validate = .error .nestedArray ↔
    ∃ component ∈ type.component?, component.isArrayLike := by
  cases type with
  | array component | collection container component construction =>
    cases component <;> simp [validate, isArrayLike, component?]
  | boolean | int | double | string | unknown name => simp [validate, component?]

end FieldType

/-! ## Resolved types -/

theorem isSome_scalar?_primitiveType (name : String) :
    (primitiveType name).scalar?.isSome ↔ name ∈ ["boolean", "int", "double"] := by
  unfold primitiveType
  split
  next isBoolean => simp [FieldType.scalar?, isBoolean]
  next notBoolean =>
    split
    next isInt => simp [FieldType.scalar?, isInt]
    next notInt =>
      split
      next isDouble => simp [FieldType.scalar?, isDouble]
      next notDouble => simp [FieldType.scalar?, notBoolean, notInt, notDouble]

theorem scalarClass?_eq_none {name : String} :
    scalarClass? name = none ↔ name ∉ DeclaredType.scalarClasses := by
  unfold scalarClass? DeclaredType.scalarClasses DeclaredType.stringName
  split_ifs <;> simp_all

theorem isSome_scalar?_of_scalarClass? {name : String} {type : FieldType}
    (isScalar : scalarClass? name = some type) : type.scalar?.isSome := by
  unfold scalarClass? at isScalar
  split_ifs at isScalar <;> cases isScalar <;> rfl

theorem scalar?_primitiveType_component (name : String) :
    (primitiveType name).component? = none := by
  unfold primitiveType
  split_ifs <;> rfl

namespace DeclaredType

variable {name : String} {args : List DeclaredType} {constructors : List (List DeclaredType)}

theorem resolve_scalarClass {type : FieldType} (isScalar : scalarClass? name = some type) :
    (declared name args constructors).resolve = type := by
  rw [resolve, isScalar]

theorem resolve_argument (other : scalarClass? name = none) (item : DeclaredType) :
    (declared name [item] constructors).resolve = .collection name item.resolve .append := by
  rw [resolve, other]
  rfl

theorem resolve_constructors (other : scalarClass? name = none) (notOne : args.length ≠ 1) :
    (declared name args constructors).resolve =
      match arrayParameters constructors with
      | [] => .unknown name
      | [component] => .collection name component .arrayConstructor
      | _ => .unknown (name ++ " (ambiguous array constructors)") := by
  rw [resolve, other]
  match args, notOne with
  | [], _ => rfl
  | _ :: _ :: _, _ => rfl

theorem isLeaf_iff {type : DeclaredType} : type.IsLeaf ↔ type.resolve.scalar?.isSome := by
  cases type with
  | primitive name =>
    rw [resolve, isSome_scalar?_primitiveType]
    exact ⟨fun | .primitive isScalar => isScalar, .primitive⟩
  | array component => exact ⟨nofun, nofun⟩
  | other name => exact ⟨nofun, nofun⟩
  | declared name args constructors =>
    cases isScalar : scalarClass? name with
    | some type =>
      rw [resolve_scalarClass isScalar]
      refine iff_of_true (.declared ?_) (isSome_scalar?_of_scalarClass? isScalar)
      by_contra other
      rw [scalarClass?_eq_none.mpr other] at isScalar
      cases isScalar
    | none =>
      have noLeaf : ¬ (declared name args constructors).IsLeaf := by
        rintro (_ | known)
        exact scalarClass?_eq_none.mp isScalar known
      refine iff_of_false noLeaf ?_
      by_cases one : args.length = 1
      · obtain ⟨item, rfl⟩ := List.length_eq_one_iff.mp one
        simp [resolve_argument isScalar, FieldType.scalar?]
      · rw [resolve_constructors isScalar one]
        split <;> simp [FieldType.scalar?]

/-! ## Constructors that take an array -/

theorem soleArray_eq_nil {parameters : List DeclaredType} :
    soleArray parameters = [] ↔ ∀ inner, parameters ≠ [.array inner] := by
  unfold soleArray
  split
  next component => simp
  next other => simpa using other

theorem arrayParameters_append (before after : List (List DeclaredType)) :
    arrayParameters (before ++ after) = arrayParameters before ++ arrayParameters after := by
  induction before with
  | nil => rfl
  | cons parameters rest inductionHypothesis =>
    rw [List.cons_append, arrayParameters, arrayParameters, inductionHypothesis, List.append_assoc]

theorem arrayParameters_eq_nil :
    arrayParameters constructors = [] ↔
      ∀ parameters ∈ constructors, ∀ inner, parameters ≠ [.array inner] := by
  induction constructors with
  | nil => simp [arrayParameters]
  | cons parameters rest inductionHypothesis =>
    rw [arrayParameters, List.append_eq_nil_iff, soleArray_eq_nil, inductionHypothesis,
      List.forall_mem_cons]

/-- One component type comes from one constructor. -/
theorem arrayParameters_eq_singleton {type : FieldType} :
    arrayParameters constructors = [type] ↔
      ∃ before component after, constructors = before ++ [.array component] :: after ∧
        component.resolve = type ∧
        ∀ parameters ∈ before ++ after, ∀ inner, parameters ≠ [.array inner] := by
  constructor
  · intro single
    induction constructors with
    | nil => cases single
    | cons parameters rest inductionHypothesis =>
      rw [arrayParameters] at single
      by_cases noArray : soleArray parameters = []
      · rw [noArray, List.nil_append] at single
        obtain ⟨before, component, after, rfl, resolved, onlyOne⟩ := inductionHypothesis single
        refine ⟨parameters :: before, component, after, rfl, resolved, ?_⟩
        exact List.forall_mem_cons.mpr ⟨soleArray_eq_nil.mp noArray, onlyOne⟩
      · obtain ⟨component, rfl⟩ : ∃ component, parameters = [.array component] := by
          simpa using mt soleArray_eq_nil.mpr noArray
        obtain ⟨resolved, noMore⟩ := List.cons.inj single
        exact ⟨[], component, rest, rfl, resolved, arrayParameters_eq_nil.mp noMore⟩
  · rintro ⟨before, component, after, rfl, rfl, onlyOne⟩
    obtain ⟨noneBefore, noneAfter⟩ := List.forall_mem_append.mp onlyOne
    rw [arrayParameters_append, arrayParameters, arrayParameters_eq_nil.mpr noneBefore,
      arrayParameters_eq_nil.mpr noneAfter]
    rfl

/-! ## Flat types -/

/-- Exactly the flat types are resolved to valid ones. -/
theorem isFlat_iff {type : DeclaredType} : type.IsFlat ↔ type.resolve.validate = .ok () := by
  rw [FieldType.validate_eq_ok, ← isLeaf_iff]
  constructor
  · intro isFlat
    cases isFlat with
    | leaf isLeaf => exact .inl isLeaf
    | array isLeaf => exact .inr ⟨_, rfl, isLeaf_iff.mp isLeaf⟩
    | argument other isLeaf =>
      rw [resolve_argument (scalarClass?_eq_none.mpr other)]
      exact .inr ⟨_, rfl, isLeaf_iff.mp isLeaf⟩
    | @constructor name args before after component other notOne isLeaf onlyOne =>
      have single : arrayParameters (before ++ [.array component] :: after) =
          [component.resolve] :=
        arrayParameters_eq_singleton.mpr ⟨before, component, after, rfl, rfl, onlyOne⟩
      rw [resolve_constructors (scalarClass?_eq_none.mpr other) notOne, single]
      exact .inr ⟨_, rfl, isLeaf_iff.mp isLeaf⟩
  · rintro (isLeaf | ⟨component, isComponent, isScalar⟩)
    · exact .leaf isLeaf
    · cases type with
      | primitive name =>
        rw [resolve, scalar?_primitiveType_component] at isComponent
        cases isComponent
      | array inner =>
        cases isComponent
        exact .array (isLeaf_iff.mpr isScalar)
      | other name => cases isComponent
      | declared name args constructors =>
        by_cases known : name ∈ scalarClasses
        · exact .leaf (.declared known)
        have other := scalarClass?_eq_none.mpr known
        by_cases one : args.length = 1
        · obtain ⟨item, rfl⟩ := List.length_eq_one_iff.mp one
          rw [resolve_argument other] at isComponent
          cases isComponent
          exact .argument known (isLeaf_iff.mpr isScalar)
        · -- Only with a single component type is there a collection at all.
          rw [resolve_constructors other one] at isComponent
          split at isComponent
          next => cases isComponent
          next single =>
            cases isComponent
            obtain ⟨before, inner, after, rfl, rfl, onlyOne⟩ :=
              arrayParameters_eq_singleton.mp single
            exact .constructor known one (isLeaf_iff.mpr isScalar) onlyOne
          next => cases isComponent

end DeclaredType

/-- Exactly the flat types are resolved to valid ones. A flat type is read as its representation and
    has a zero value of this shape. Any other type cannot be read at all, and it is called nested
    exactly when its items have items again. -/
theorem flat_types_are_usable (t : DeclaredType) :
    (t.resolve.validate = .ok () ↔ t.IsFlat) ∧
      (t.IsFlat →
        (∃ accessor, t.resolve.accessor? = some accessor ∧
          accessor.type = t.resolve.representation) ∧
        ∃ zero, t.resolve.zero? = some zero ∧ zero.conforms t.resolve) ∧
      (¬ t.IsFlat →
        t.resolve.accessor? = none ∧
          ∃ error, t.resolve.validate = .error error ∧
            (error = .nestedArray ↔
              ∃ component ∈ t.resolve.component?, component.isArrayLike)) := by
  refine ⟨DeclaredType.isFlat_iff.symm, fun isFlat => ⟨?readable, ?zero⟩, fun notFlat => ?unusable⟩
  case readable =>
    obtain ⟨accessor, readable⟩ :=
      FieldType.accessor?_of_validate (DeclaredType.isFlat_iff.mp isFlat)
    exact ⟨accessor, readable, FieldType.type_of_accessor? readable⟩
  case zero =>
    have valid := DeclaredType.isFlat_iff.mp isFlat
    obtain ⟨zero, known⟩ := Option.isSome_iff_exists.mp (FieldType.zero?_of_validate valid)
    exact ⟨zero, known, FieldType.zero?_conforms known⟩
  case unusable =>
    rw [DeclaredType.isFlat_iff] at notFlat
    refine ⟨?_, ?_⟩
    · rw [← FieldType.isSome_accessor?] at notFlat
      simpa using notFlat
    · cases failed : t.resolve.validate with
      | ok _ => exact absurd failed notFlat
      | error error =>
        refine ⟨error, rfl, ?_⟩
        rw [← FieldType.validate_eq_nestedArray, failed, Except.error.injEq]

/-- A collection of two arguments that is made from an array of boxed integers. -/
def gridType : DeclaredType :=
  .declared "game.Grid" [.other "K", .other "V"]
    [[.primitive "int"], [.array (.declared "java.lang.Integer" [.other "T"] [])], []]

/-- A list of arrays, which may also be made from an array. -/
def rowsType : DeclaredType :=
  .declared "java.util.List" [.array (.primitive "int")] [[.array (.primitive "int")]]

theorem gridType_is_usable :
    gridType.IsFlat ∧
      (∃ accessor, gridType.resolve.accessor? = some accessor ∧ accessor.type = .array .int) ∧
      ¬ rowsType.IsFlat ∧ rowsType.resolve.accessor? = none ∧
      rowsType.resolve.validate = .error .nestedArray := by
  obtain ⟨gridValid, gridUsable, -⟩ := flat_types_are_usable gridType
  obtain ⟨rowsValid, -, rowsUnusable⟩ := flat_types_are_usable rowsType
  have isFlat : gridType.IsFlat := gridValid.mp rfl
  have notFlat : ¬ rowsType.IsFlat := fun isFlat => nomatch rowsValid.mpr isFlat
  obtain ⟨unread, error, failed, isNested⟩ := rowsUnusable notFlat
  obtain rfl := isNested.mpr ⟨.array .int, rfl, rfl⟩
  exact ⟨isFlat, (gridUsable isFlat).1, notFlat, unread, failed⟩

end ConfigBinding
