import ConfigBinding.Proofs.Binding.Emission
import ConfigBinding.Proofs.Schema.Reading

/-!
# Defaults that fit in a file

Declared or not, the default of a field of a document is a scalar or a list of scalars, and its
doubles are finite. So it can be written to the file of a store.

* `Element.fitsIn_resolveDefault?`: the default of a field whose markers fit;
* `ClassDecl.hosted`, `ClassDecl.unbound`: a class in a host, and as a document lists it, without
  what only a running host has;
* `Document.fitsIn_default`: the defaults that the store loader of a document's root uses.
-/

namespace ConfigBinding

/-! ## Defaults of declarations -/

theorem Value.fitsIn_double {value : Double} {levels : Nat} (finite : value.isFinite) :
    (Value.double value).toJson.FitsIn levels := by
  have fits : (Number.real value).Fits := finite
  exact .number fits

theorem FieldType.fitsIn_zero? {type : FieldType} {zero : Value} {levels : Nat}
    (known : type.zero? = some zero) : zero.toJson.FitsIn (levels + 1) := by
  cases type <;> cases known
  case boolean => exact .bool false
  case int => exact .number (Number.fits_int32 0)
  case double => exact Value.fitsIn_double rfl
  case string => exact .string ""
  all_goals exact Value.fitsIn_array (List.forall_mem_nil _)

/-- Widening only turns ints into doubles. -/
theorem Value.fitsIn_widen? {type : FieldType} {value widened : Value} {levels : Nat}
    (fits : value.toJson.FitsIn levels) (widens : value.widen? type = some widened) :
    widened.toJson.FitsIn levels := by
  induction type generalizing value widened levels with
  | boolean | int | string | unknown name => simp [Value.widen?] at widens
  | double =>
    cases value <;> simp only [Value.widen?, Option.some.injEq, reduceCtorEq] at widens
    subst widens
    exact Value.fitsIn_double (Number.isFinite_of_whole (Number.fits_int32 _))
  | array component inductionHypothesis
  | collection container component construction inductionHypothesis =>
    cases value <;> simp only [Value.widen?, Option.map_eq_some_iff, reduceCtorEq] at widens
    obtain ⟨items, itemsWiden, rfl⟩ := widens
    obtain ⟨inner, rfl, inside⟩ := Value.exists_of_fitsIn_array fits
    refine Value.fitsIn_array fun item member => ?_
    obtain ⟨source, isSource, sourceWidens⟩ :=
      exists_of_mem_right (mapM_eq_some.mp itemsWiden) member
    split at sourceWidens
    next =>
      cases sourceWidens
      exact inside item isSource
    next => exact inductionHypothesis (inside source isSource) sourceWidens

theorem FieldType.fitsIn_extract {type : FieldType} {raw : Value} {levels : Nat}
    (fits : raw.toJson.FitsIn levels) : (type.extract raw).toJson.FitsIn (levels + 1) := by
  by_cases isList : ∃ items, raw = .array items
  · obtain ⟨items, rfl⟩ := isList
    simp only [FieldType.extract]
    split
    next => exact fits.mono (Nat.le_succ levels)
    next =>
      obtain ⟨inner, rfl, inside⟩ := Value.exists_of_fitsIn_array fits
      cases items with
      | cons first rest => exact (inside first List.mem_cons_self).mono (Nat.le_add_right inner 2)
      | nil =>
        cases known : type.zero? with
        | some zero => exact FieldType.fitsIn_zero? known
        | none => exact Value.fitsIn_array (List.forall_mem_nil _)
  · have isScalar : type.extract raw = if type.isArrayLike then .array [raw] else raw := by
      cases raw <;> first | rfl | exact absurd ⟨_, rfl⟩ isList
    rw [isScalar]
    split
    next => exact Value.fitsIn_array (List.forall_mem_singleton.mpr fits)
    next => exact fits.mono (Nat.le_succ levels)

theorem Literal.fitsIn_toValue {α : Type} {item : α → Value} {literal : Literal α} {levels : Nat}
    (fits : ∀ value ∈ literal.items, (item value).toJson.FitsIn levels) :
    (literal.toValue item).toJson.FitsIn (levels + 1) := by
  cases literal with
  | one value => exact (fits value (List.mem_singleton_self value)).mono (Nat.le_succ levels)
  | many values => exact Value.fitsIn_array (List.forall_mem_map.mpr fits)

/-- The default that markers give, of those that fit. -/
theorem Element.fitsIn_explicitDefault? {e : Element} (fits : ∀ marker ∈ e.markers, marker.Fits)
    {raw : Value} (found : e.explicitDefault? = some raw) : raw.toJson.FitsIn 1 := by
  have marked : ∀ {view : Marker → Option Value}, e.marker? view = some raw →
      ∃ marker, marker.Fits ∧ view marker = some raw := by
    intro view isMarked
    obtain ⟨marker, isMarker, isRaw⟩ := List.exists_of_findSome?_eq_some isMarked
    exact ⟨marker, fits marker isMarker, isRaw⟩
  simp only [Element.explicitDefault?, Option.orElse_eq_orElse, Option.orElse_eq_or,
    Option.or_eq_some_iff] at found
  obtain isBoolean | ⟨-, isInt | ⟨-, isDouble | ⟨-, isString⟩⟩⟩ := found
  · obtain ⟨marker, -, isRaw⟩ := marked isBoolean
    cases marker <;> cases isRaw
    exact Literal.fitsIn_toValue fun value _ => .bool value
  · obtain ⟨marker, -, isRaw⟩ := marked isInt
    cases marker <;> cases isRaw
    exact Literal.fitsIn_toValue fun value _ => .number (Number.fits_int32 value)
  · obtain ⟨marker, markerFits, isRaw⟩ := marked isDouble
    cases marker <;> cases isRaw
    exact Literal.fitsIn_toValue fun value member => Value.fitsIn_double (markerFits value member)
  · obtain ⟨marker, -, isRaw⟩ := marked isString
    cases marker <;> cases isRaw
    exact Literal.fitsIn_toValue fun value _ => .string value

theorem Element.fitsIn_resolveDefault? {e : Element} (fits : ∀ marker ∈ e.markers, marker.Fits)
    {type : FieldType} {resolved : ResolvedDefault}
    (found : e.resolveDefault? type = some resolved) : resolved.value.toJson.FitsIn 2 := by
  simp only [Element.resolveDefault?, Option.map_eq_some_iff] at found
  obtain ⟨zero, known, rfl⟩ := found
  have zeroFits : zero.toJson.FitsIn 2 := FieldType.fitsIn_zero? known
  cases isExplicit : e.explicitDefault? with
  | none => exact zeroFits
  | some raw =>
    have extracted : (type.extract raw).toJson.FitsIn 2 :=
      FieldType.fitsIn_extract (Element.fitsIn_explicitDefault? fits isExplicit)
    dsimp only
    split
    next => exact extracted
    next =>
      cases widens : (type.extract raw).widen? type with
      | none => exact zeroFits
      | some widened => exact Value.fitsIn_widen? extracted widens

/-- The default of a declared field, if its type is usable. -/
theorem FieldDecl.fitsIn_survey {f : FieldDecl} (fits : f.Fits) {owner : String} {default : Value}
    (found : (f.survey owner).1.default = some default) : default.toJson.FitsIn 2 := by
  unfold FieldDecl.survey at found
  dsimp only at found
  split at found
  next => cases found
  next =>
    split at found
    next => cases found
    next resolved isResolved =>
      cases found
      exact Element.fitsIn_resolveDefault? fits isResolved

/-! ## Classes in a host -/

mutual

def ClassDecl.hosted (setter? : FieldDecl → Option Setter) (callable : MethodDecl → Bool) :
    ClassDecl → ClassDecl
  | { name, modifiers, markers, package, kind, doc, members } =>
    { name, modifiers, markers, package, kind, doc
      members := ClassMember.hostedAll setter? callable members }

def ClassMember.hosted (setter? : FieldDecl → Option Setter) (callable : MethodDecl → Bool) :
    ClassMember → ClassMember
  | .nested c => .nested (c.hosted setter? callable)
  | .field f => .field { f with setter := setter? f }
  | .method m => .method { m with callable := callable m }

def ClassMember.hostedAll (setter? : FieldDecl → Option Setter) (callable : MethodDecl → Bool) :
    List ClassMember → List ClassMember
  | [] => []
  | member :: rest =>
    member.hosted setter? callable :: ClassMember.hostedAll setter? callable rest

end

/-- A class as a document lists it, without what only a running host has. -/
def ClassDecl.unbound (c : ClassDecl) : ClassDecl := c.hosted (fun _ => none) fun _ => false

section Hosted

variable (setter? : FieldDecl → Option Setter) (callable : MethodDecl → Bool)

theorem ClassMember.hostedAll_eq_map (members : List ClassMember) :
    ClassMember.hostedAll setter? callable members =
      members.map (ClassMember.hosted setter? callable) := by
  induction members with
  | nil => rfl
  | cons member rest inductionHypothesis =>
    rw [ClassMember.hostedAll, inductionHypothesis, List.map_cons]

theorem ClassDecl.members_hosted (c : ClassDecl) :
    (c.hosted setter? callable).members = c.members.map (ClassMember.hosted setter? callable) := by
  cases c
  exact ClassMember.hostedAll_eq_map setter? callable _

mutual

/-- A host adds nothing that a document lists. -/
theorem ClassDecl.unbound_hosted :
    (c : ClassDecl) → (c.hosted setter? callable).unbound = c.unbound
  | { members, .. } => by
    simp only [ClassDecl.unbound, ClassDecl.hosted, ClassMember.unboundAll_hostedAll members]

theorem ClassMember.unbound_hosted : (member : ClassMember) →
    (member.hosted setter? callable).hosted (fun _ => none) (fun _ => false) =
      member.hosted (fun _ => none) fun _ => false
  | .nested c => congrArg ClassMember.nested c.unbound_hosted
  | .field _ | .method _ => rfl

theorem ClassMember.unboundAll_hostedAll : (members : List ClassMember) →
    ClassMember.hostedAll (fun _ => none) (fun _ => false)
        (ClassMember.hostedAll setter? callable members) =
      ClassMember.hostedAll (fun _ => none) (fun _ => false) members
  | [] => rfl
  | member :: rest => by
    simp only [ClassMember.hostedAll, member.unbound_hosted, ClassMember.unboundAll_hostedAll rest]

end

end Hosted

theorem ClassDecl.Declares.unbound {c : ClassDecl} {f : FieldDecl} (declares : c.Declares f) :
    c.unbound.Declares { f with setter := none } := by
  induction declares with
  | member isMember =>
    refine .member ?_
    rw [ClassDecl.unbound, ClassDecl.members_hosted]
    exact List.mem_map_of_mem isMember
  | nested isMember _ inductionHypothesis =>
    refine .nested ?_ inductionHypothesis
    rw [ClassDecl.unbound, ClassDecl.members_hosted]
    exact List.mem_map_of_mem isMember

/-- What a class declares without its setters, it declares with them. -/
theorem ClassDecl.Declares.of_unbound {c : ClassDecl} {f : FieldDecl}
    (declares : c.unbound.Declares f) : ∃ g, c.Declares g ∧ f = { g with setter := none } := by
  generalize same : c.unbound = unbound at declares
  induction declares generalizing c with
  | member isMember =>
    subst same
    rw [ClassDecl.unbound, ClassDecl.members_hosted] at isMember
    obtain ⟨listed, isListed, isField⟩ := List.mem_map.mp isMember
    cases listed <;> cases isField
    exact ⟨_, .member isListed, rfl⟩
  | nested isMember _ inductionHypothesis =>
    subst same
    rw [ClassDecl.unbound, ClassDecl.members_hosted] at isMember
    obtain ⟨listed, isListed, isNested⟩ := List.mem_map.mp isMember
    cases listed <;> cases isNested
    obtain ⟨g, declares, isField⟩ := inductionHypothesis rfl
    exact ⟨g, .nested isListed declares, isField⟩

/-- The defaults that a store loader uses for the root of a document, whatever its setters are. -/
theorem Document.fitsIn_default {path text : String} {document : Document}
    (isRead : Document.ofText path text = .ok document) {root : ClassDecl}
    (isRoot : root.unbound ∈ document.roots.map ClassDecl.unbound) {l : Layout}
    (surveyed : root.survey.1 = some l) :
    ∀ field ∈ (StoreLoader.ofLayout l).fields, field.default.toJson.FitsIn 2 := by
  have fits : ∀ f, root.Declares f → f.Fits := by
    intro f declares
    obtain ⟨listed, isListed, same⟩ := List.mem_map.mp isRoot
    have asListed := declares.unbound
    rw [← same] at asListed
    obtain ⟨g, declares, sameField⟩ := asListed.of_unbound
    have sameMarkers : f.markers = g.markers := congrArg (fun field => field.markers) sameField
    have gFits := Document.fits_of_ofText isRead listed (List.mem_filter.mp isListed).1 g declares
    rw [FieldDecl.Fits, sameMarkers]
    exact gFits
  have sound := ClassDecl.survey_isSound surveyed
  intro field member
  obtain ⟨u, isUsable, stored⟩ := exists_of_mem_right (Layout.storeFields_forall₂ sound) member
  obtain ⟨part, isPart, usable⟩ := List.mem_filterMap.mp isUsable
  have made := ClassDecl.survey_isMadeFrom surveyed part isPart
  rw [LayoutPart.field_of_usable? usable] at made
  obtain ⟨-, f, owner, declares, isField⟩ := made
  have hasDefault := (Layout.isSound_of_mem_usableFields sound isUsable).hasDefault
  rw [isField] at hasDefault
  rw [stored.default]
  exact FieldDecl.fitsIn_survey (fits f declares) hasDefault

end ConfigBinding
