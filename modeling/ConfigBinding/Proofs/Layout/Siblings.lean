import ConfigBinding.Proofs.Layout.Mirror
import Mathlib.Data.List.Nodup

/-!
# Siblings told apart

A key that tells siblings apart at every level of a layout tells all its categories apart, each by
the keys on the way down to it. Declared names are such a key where the members that a root keeps of
a class have different names.

* `Layout.TellsApart`, `Layout.placed_eq_of_keys`: keys of siblings, and of whole paths;
* `Layout.field_eq_of_keys`, `Layout.isChild_of_keys`: paths with one key more, to a field or to a
  child;
* `PlacedField.eq_of_keys`, `Layout.nodup_map_usableFields`: keys of the fields of one category, and
  of all usable fields;
* `ClassDecl.innerClasses`, `ClassDecl.HasDistinctMembers`, `ClassDecl.HasPlainNames`,
  `ClassDecl.HasPlainFields`: what roots may be asked for;
* `ClassDecl.survey_contains`: every category of a layout mirrors a class that is kept;
* `Layout.forall_target`: what holds of the declared names holds of those that lead to fields.
-/

namespace ConfigBinding

/-! ## Where categories stand -/

theorem Category.contains_of_trail? {siblings trail : List Category} {place : List Nat}
    (reached : Category.trail? siblings place = some trail) {c : Category} (isPassed : c ∈ trail) :
    ∃ top ∈ siblings, top.Contains c := by
  induction place generalizing siblings trail with
  | nil =>
    cases reached
    cases isPassed
  | cons index rest inductionHypothesis =>
    obtain ⟨top, below, found, belowReached, rfl⟩ := (Category.trail?_cons _ _ _ _).mp reached
    have isSibling := List.mem_of_getElem? found
    obtain rfl | isBelow := List.mem_cons.mp isPassed
    · exact ⟨c, isSibling, .self c⟩
    · obtain ⟨child, isChild, contains⟩ := inductionHypothesis belowReached isBelow
      exact ⟨top, isSibling, .child isChild contains⟩

theorem PlacedCategory.IsIn.contains {l : Layout} {placed : PlacedCategory} (isIn : placed.IsIn l) :
    l.Contains placed.category :=
  Category.contains_of_trail? isIn (List.mem_append_right _ List.mem_cons_self)

theorem Category.exists_trail? {siblings : List Category} {top c : Category}
    (isSibling : top ∈ siblings) (contains : top.Contains c) :
    ∃ place above, Category.trail? siblings place = some (above ++ [c]) := by
  induction contains generalizing siblings with
  | self c =>
    obtain ⟨index, found⟩ := List.mem_iff_getElem?.mp isSibling
    exact ⟨[index], [], (Category.trail?_cons _ _ _ _).mpr ⟨c, [], found, rfl, rfl⟩⟩
  | @child outer _ c isChild _ inductionHypothesis =>
    obtain ⟨index, found⟩ := List.mem_iff_getElem?.mp isSibling
    obtain ⟨place, above, reached⟩ := inductionHypothesis isChild
    exact ⟨index :: place, outer :: above,
      (Category.trail?_cons _ _ _ _).mpr ⟨outer, _, found, reached, rfl⟩⟩

theorem Layout.Contains.exists_placed {l : Layout} {c : Category} (contains : l.Contains c) :
    ∃ placed : PlacedCategory, placed.IsIn l ∧ placed.category = c := by
  obtain ⟨top, isTop, inside⟩ := contains
  obtain ⟨place, above, reached⟩ := Category.exists_trail? isTop inside
  exact ⟨⟨place, above, c⟩, reached, rfl⟩

/-- The category around another one stands where the last index is left out. -/
theorem Category.trail?_dropLast {siblings : List Category} {place : List Nat}
    {above : List Category} {outer c : Category}
    (reached : Category.trail? siblings place = some (above ++ [outer] ++ [c])) :
    ∃ around, Category.trail? siblings around = some (above ++ [outer]) ∧ c ∈ outer.children := by
  induction place generalizing siblings above with
  | nil => simp [Category.trail?] at reached
  | cons index rest inductionHypothesis =>
    obtain ⟨top, below, found, belowReached, trailEq⟩ := (Category.trail?_cons _ _ _ _).mp reached
    cases above with
    | nil =>
      obtain ⟨rfl, rfl⟩ := List.cons.inj trailEq
      refine ⟨[index], (Category.trail?_cons _ _ _ _).mpr ⟨outer, [], found, rfl, rfl⟩, ?_⟩
      cases rest with
      | nil => cases belowReached
      | cons j rest =>
        obtain ⟨child, _, isChild, _, same⟩ := (Category.trail?_cons _ _ _ _).mp belowReached
        obtain ⟨rfl, -⟩ := List.cons.inj same
        exact List.mem_of_getElem? isChild
    | cons first above =>
      obtain ⟨rfl, rfl⟩ := List.cons.inj trailEq
      obtain ⟨around, aroundReached, isChild⟩ := inductionHypothesis belowReached
      exact ⟨index :: around,
        (Category.trail?_cons _ _ _ _).mpr ⟨first, _, found, aroundReached, rfl⟩, isChild⟩

theorem Category.trail?_concat {siblings : List Category} {place : List Nat}
    {above : List Category} {outer child : Category} {index : Nat}
    (reached : Category.trail? siblings place = some (above ++ [outer]))
    (isChild : outer.children[index]? = some child) :
    Category.trail? siblings (place ++ [index]) = some (above ++ [outer] ++ [child]) := by
  induction place generalizing siblings above with
  | nil => simp [Category.trail?] at reached
  | cons first rest inductionHypothesis =>
    obtain ⟨top, below, found, belowReached, trailEq⟩ := (Category.trail?_cons _ _ _ _).mp reached
    rw [List.cons_append, Category.trail?_cons]
    cases above with
    | nil =>
      obtain ⟨rfl, rfl⟩ := List.cons.inj trailEq
      have atOuter : rest = [] := by
        cases rest with
        | nil => rfl
        | cons j rest =>
          obtain ⟨_, _, -, -, same⟩ := (Category.trail?_cons _ _ _ _).mp belowReached
          cases same
      subst atOuter
      exact ⟨outer, [child], found, (Category.trail?_cons _ _ _ _).mpr
        ⟨child, [], isChild, rfl, rfl⟩, rfl⟩
    | cons next above =>
      obtain ⟨rfl, rfl⟩ := List.cons.inj trailEq
      exact ⟨next, _, found, inductionHypothesis belowReached, rfl⟩

theorem PlacedCategory.IsIn.exists_child {l : Layout} {p : PlacedCategory} (isIn : p.IsIn l)
    {child : Category} (isChild : child ∈ p.category.children) :
    ∃ q : PlacedCategory, q.IsIn l ∧ q.above = p.trail ∧ q.category = child := by
  obtain ⟨index, found⟩ := List.mem_iff_getElem?.mp isChild
  exact ⟨⟨p.place ++ [index], p.trail, child⟩, Category.trail?_concat isIn found, rfl, rfl⟩

theorem PlacedField.target_ne_nil (p : PlacedField) : p.target ≠ [] := by
  simp [PlacedField.target]

/-- What holds of all categories can be asked of the parts, which are listed. -/
theorem Layout.forall_contains_iff {l : Layout} {P : Category → Prop} :
    (∀ c, l.Contains c → P c) ↔ ∀ part ∈ l.parts, P part.site.category := by
  constructor
  · intro holds part isPart
    have stands := (LayoutPart.isIn_iff part l).mp ((Layout.mem_parts l part).mp isPart)
    exact holds _ stands.1.contains
  · intro holds c contains
    obtain ⟨placed, isIn, rfl⟩ := contains.exists_placed
    exact holds (.category placed) ((Layout.mem_parts l _).mpr isIn)

theorem Layout.Contains.child {l : Layout} {c child : Category} (contains : l.Contains c)
    (isChild : child ∈ c.children) : l.Contains child := by
  obtain ⟨top, isTop, inside⟩ := contains
  refine ⟨top, isTop, ?_⟩
  clear isTop
  induction inside with
  | self c => exact .child isChild (.self child)
  | child isInner _ inductionHypothesis => exact .child isInner (inductionHypothesis isChild)

/-! ## Keys -/

/-- Whether siblings differ in a key, at every level of a layout. -/
structure Layout.TellsApart {κ : Type} (l : Layout) (key : Category → κ) : Prop where
  top : (l.categories.map key).Nodup
  inner : ∀ c, l.Contains c → (c.children.map key).Nodup

theorem Layout.tellsApart_iff {κ : Type} {l : Layout} {key : Category → κ} :
    l.TellsApart key ↔ (l.categories.map key).Nodup ∧
      ∀ part ∈ l.parts, (part.site.category.children.map key).Nodup := by
  rw [← Layout.forall_contains_iff (P := fun c => (c.children.map key).Nodup)]
  exact ⟨fun ⟨top, inner⟩ => ⟨top, inner⟩, fun ⟨top, inner⟩ => ⟨top, inner⟩⟩

instance {κ : Type} [DecidableEq κ] (l : Layout) (key : Category → κ) :
    Decidable (l.TellsApart key) :=
  decidable_of_iff _ Layout.tellsApart_iff.symm

theorem index_eq_of_keys {α κ : Type} {key : α → κ} {items : List α}
    (distinct : (items.map key).Nodup) {i j : Nat} {a b : α} (first : items[i]? = some a)
    (second : items[j]? = some b) (same : key a = key b) : i = j := by
  obtain ⟨inRange, -⟩ := List.getElem?_eq_some_iff.mp first
  apply (List.getElem?_inj (by simpa using inRange) distinct).mp
  simp [first, second, same]

theorem PlacedField.eq_of_keys {κ : Type} {key : Field → κ} {l : Layout} {p q : PlacedField}
    (isIn : p.IsIn l) (otherIsIn : q.IsIn l) (sameSite : p.site = q.site)
    (distinct : (p.site.category.fields.map key).Nodup) (same : key p.field = key q.field) :
    p = q := by
  obtain ⟨site, index, f⟩ := p
  obtain ⟨otherSite, otherIndex, g⟩ := q
  cases sameSite
  have sameIndex := index_eq_of_keys distinct isIn.2 otherIsIn.2 same
  subst sameIndex
  cases isIn.2.symm.trans otherIsIn.2
  rfl

theorem Layout.isIn_of_mem_usableFields {l : Layout} {u : UsableField}
    (isUsable : u ∈ l.usableFields) : u.toPlacedField.IsIn l := by
  obtain ⟨part, isPart, usable⟩ := List.mem_filterMap.mp isUsable
  rw [LayoutPart.field_of_usable? usable] at isPart
  exact (Layout.mem_parts l _).mp isPart

theorem Layout.nodup_parts (l : Layout) : l.parts.Nodup :=
  l.pairwise_parts.imp fun precedes => precedes.1

/-- No usable field is listed twice, so keys that tell where fields stand are all different. -/
theorem Layout.nodup_map_usableFields {κ : Type} {key : UsableField → κ} {l : Layout}
    (tells : ∀ u v : UsableField, u.toPlacedField.IsIn l → v.toPlacedField.IsIn l →
      key u = key v → u.toPlacedField = v.toPlacedField) : (l.usableFields.map key).Nodup := by
  refine (nodup_map_filterMap_iff l.nodup_parts).mpr ?_
  intro part isPart other otherIsPart u v isUsable otherIsUsable same
  cases LayoutPart.field_of_usable? isUsable
  cases LayoutPart.field_of_usable? otherIsUsable
  have sameField := tells u v ((Layout.mem_parts l _).mp isPart)
    ((Layout.mem_parts l _).mp otherIsPart) same
  exact congrArg LayoutPart.field sameField

section Keys

variable {κ : Type} {key : Category → κ}

/-- By induction on the first place: equal keys lead to one sibling at every level. -/
theorem Category.place_eq_of_keys {siblings : List Category} (top : (siblings.map key).Nodup)
    (inner : ∀ s ∈ siblings, ∀ c, s.Contains c → (c.children.map key).Nodup)
    {place other : List Nat} {trail otherTrail : List Category}
    (reached : Category.trail? siblings place = some trail)
    (otherReached : Category.trail? siblings other = some otherTrail)
    (same : trail.map key = otherTrail.map key) : place = other := by
  induction place generalizing siblings other trail otherTrail with
  | nil =>
    cases reached
    cases other with
    | nil => rfl
    | cons j rest =>
      obtain ⟨d, below, -, -, rfl⟩ := (Category.trail?_cons _ _ _ _).mp otherReached
      cases same
  | cons i rest inductionHypothesis =>
    obtain ⟨c, below, found, belowReached, rfl⟩ := (Category.trail?_cons _ _ _ _).mp reached
    cases other with
    | nil =>
      cases otherReached
      cases same
    | cons j otherRest =>
      obtain ⟨d, otherBelow, otherFound, otherBelowReached, rfl⟩ :=
        (Category.trail?_cons _ _ _ _).mp otherReached
      simp only [List.map_cons, List.cons.injEq] at same
      have sameIndex := index_eq_of_keys top found otherFound same.1
      subst sameIndex
      cases found.symm.trans otherFound
      have isSibling := List.mem_of_getElem? found
      have rests := inductionHypothesis (inner c isSibling c (.self c))
        (fun s isChild d contains => inner c isSibling d (.child isChild contains))
        belowReached otherBelowReached same.2
      rw [rests]

theorem PlacedCategory.eq_of_place {l : Layout} {p q : PlacedCategory} (isIn : p.IsIn l)
    (otherIsIn : q.IsIn l) (samePlace : p.place = q.place) : p = q := by
  have trails : p.trail = q.trail := by
    rw [PlacedCategory.IsIn, samePlace] at isIn
    exact Option.some.inj (isIn.symm.trans otherIsIn)
  exact PlacedCategory.eq_of_trail samePlace trails

theorem Layout.placed_eq_of_keys {l : Layout} (apart : l.TellsApart key) {p q : PlacedCategory}
    (isIn : p.IsIn l) (otherIsIn : q.IsIn l) (same : p.trail.map key = q.trail.map key) :
    p = q := by
  apply PlacedCategory.eq_of_place isIn otherIsIn
  refine Category.place_eq_of_keys apart.top ?_ isIn otherIsIn same
  exact fun s isTop c contains => apart.inner c ⟨s, isTop, contains⟩

/-- Where keys tell all categories apart, and other keys the fields of each, the keys down to a
    field tell where it stands. -/
theorem Layout.field_eq_of_keys {l : Layout} {fieldKey : Field → κ}
    (tells : ∀ p q : PlacedCategory, p.IsIn l → q.IsIn l → p.trail.map key = q.trail.map key →
      p = q) {p q : PlacedField} (isIn : p.IsIn l) (otherIsIn : q.IsIn l)
    (distinct : (p.site.category.fields.map fieldKey).Nodup)
    (same : p.site.trail.map key ++ [fieldKey p.field] =
      q.site.trail.map key ++ [fieldKey q.field]) : p = q := by
  obtain ⟨sameTrail, sameKey⟩ := List.append_singleton_inj.mp same
  have sameSite := tells _ _ isIn.1 otherIsIn.1 sameTrail
  exact PlacedField.eq_of_keys isIn otherIsIn sameSite distinct sameKey

/-- Where keys tell all categories apart, a category with one key more than another on the way down
    to it is a child of that one. -/
theorem Layout.isChild_of_keys {l : Layout}
    (tells : ∀ p q : PlacedCategory, p.IsIn l → q.IsIn l → p.trail.map key = q.trail.map key →
      p = q) {p q : PlacedCategory} (isIn : p.IsIn l) (otherIsIn : q.IsIn l) {last : κ}
    (longer : q.trail.map key = p.trail.map key ++ [last]) :
    q.category ∈ p.category.children ∧ key q.category = last := by
  obtain ⟨place, above, c⟩ := q
  have trail : PlacedCategory.trail ⟨place, above, c⟩ = above ++ [c] := rfl
  rw [trail, List.map_append, List.map_singleton] at longer
  obtain ⟨sameTrail, sameLast⟩ := List.append_singleton_inj.mp longer
  obtain rfl | ⟨outerAbove, outer, rfl⟩ := List.eq_nil_or_concat' above
  · simp [PlacedCategory.trail] at sameTrail
  · -- The category around it has the keys of the shorter path, so it is the one there.
    obtain ⟨around, reached, isChild⟩ := Category.trail?_dropLast otherIsIn
    have aroundIsIn : PlacedCategory.IsIn ⟨around, outerAbove, outer⟩ l := reached
    cases tells _ _ aroundIsIn isIn sameTrail
    exact ⟨isChild, sameLast⟩

end Keys

/-! ## Declared names -/

def ClassMember.class? : ClassMember → Option ClassDecl
  | .nested c => some c
  | _ => none

namespace ClassDecl

/-- The classes that become categories of a root, at any depth. -/
def innerClasses (root : ClassDecl) : List ClassDecl :=
  root.kept.filterMap fun kept => kept.member.class?

/-- Whether members that are kept of one class, be it the root or one inside, differ in name, of
    classes and of fields for themselves: a class and a field may share a name. -/
structure HasDistinctMembers (root : ClassDecl) : Prop where
  classes : ∀ c ∈ root :: root.innerClasses, (c.categoryMembers.map fun d => d.name).Nodup
  fields : ∀ c ∈ root :: root.innerClasses, (c.configuredMembers.map fun f => f.name).Nodup

instance (root : ClassDecl) : Decidable root.HasDistinctMembers :=
  decidable_of_iff
    ((∀ c ∈ root :: root.innerClasses, (c.categoryMembers.map fun d => d.name).Nodup) ∧
      ∀ c ∈ root :: root.innerClasses, (c.configuredMembers.map fun f => f.name).Nodup)
    ⟨fun ⟨classes, fields⟩ => ⟨classes, fields⟩, fun ⟨classes, fields⟩ => ⟨classes, fields⟩⟩

/-- Whether no point is in the name of a class that becomes a category. -/
def HasPlainNames (root : ClassDecl) : Prop := ∀ c ∈ root.innerClasses, '.' ∉ c.name.toList

instance (root : ClassDecl) : Decidable root.HasPlainNames :=
  inferInstanceAs (Decidable (∀ c ∈ root.innerClasses, '.' ∉ c.name.toList))

def HasPlainFields (root : ClassDecl) : Prop :=
  ∀ c ∈ root.innerClasses, ∀ f ∈ c.configuredMembers, '.' ∉ f.name.toList

instance (root : ClassDecl) : Decidable root.HasPlainFields :=
  inferInstanceAs
    (Decidable (∀ c ∈ root.innerClasses, ∀ f ∈ c.configuredMembers, '.' ∉ f.name.toList))

theorem mem_keptAllBelow {above : List String} {members : List ClassMember} {inner : ClassDecl}
    {kept : KeptMember} (isMember : .nested inner ∈ members)
    (isKept : kept ∈ inner.keptBelow above) :
    kept ∈ ClassMember.keptAllBelow above members := by
  induction members with
  | nil => cases isMember
  | cons member rest inductionHypothesis =>
    cases member with
    | nested c =>
      rw [ClassMember.keptAllBelow, List.mem_append]
      obtain same | later := List.mem_cons.mp isMember
      · cases same
        exact .inl isKept
      · exact .inr (inductionHypothesis later)
    | field f =>
      have later := inductionHypothesis (by simpa using isMember)
      rw [ClassMember.keptAllBelow]
      split
      next => exact List.mem_cons_of_mem _ later
      next => exact later
    | method m => exact inductionHypothesis (by simpa using isMember)

end ClassDecl

variable {root : ClassDecl} {l : Layout}

/-- By induction on the way down: each child mirrors a class that is kept of the one around it. -/
theorem Category.Mirrors.exists_kept {rootName : String} {names : List String}
    {declared : ClassDecl} {top c : Category}
    (mirrors : Category.Mirrors rootName names declared top)
    (isCategory : declared.isCategory) (contains : top.Contains c) (above : List String) :
    ∃ (path names : List String) (inner : ClassDecl),
      ⟨path, .nested inner⟩ ∈ declared.keptBelow above ∧
        Category.Mirrors rootName names inner c := by
  induction contains generalizing names above declared with
  | self c =>
    refine ⟨above ++ [declared.name], names, declared, ?_, mirrors⟩
    rw [ClassDecl.keptBelow_eq, if_pos isCategory]
    exact List.mem_cons_self
  | child isChild _ inductionHypothesis =>
    obtain ⟨-, -, -, -, children, -⟩ := mirrors
    obtain ⟨d, isMember, childMirrors⟩ :=
      exists_of_mem_right (Category.allMirror_iff.mp children) isChild
    obtain ⟨isNested, childIsCategory⟩ := ClassDecl.mem_categoryMembers.mp isMember
    obtain ⟨path, names, inner, isKept, innerMirrors⟩ :=
      inductionHypothesis childMirrors childIsCategory (above ++ [declared.name])
    refine ⟨path, names, inner, ?_, innerMirrors⟩
    rw [ClassDecl.keptBelow_eq, if_pos isCategory]
    exact List.mem_cons_of_mem _ (ClassDecl.mem_keptAllBelow isNested isKept)

theorem ClassDecl.survey_contains (surveyed : root.survey.1 = some l) {c : Category}
    (contains : l.Contains c) :
    ∃ names, ∃ declared ∈ root.innerClasses, Category.Mirrors root.name names declared c := by
  obtain ⟨top, isTop, inside⟩ := contains
  obtain ⟨declared, isMember, mirrors⟩ :=
    exists_of_mem_right (layout_mirrors_declarations surveyed) isTop
  obtain ⟨isNested, isCategory⟩ := ClassDecl.mem_categoryMembers.mp isMember
  obtain ⟨path, names, inner, isKept, innerMirrors⟩ :=
    mirrors.exists_kept isCategory inside [root.name]
  have isKeptOfRoot : ⟨path, .nested inner⟩ ∈ root.kept :=
    List.mem_flatMap.mpr ⟨.nested declared, isNested, isKept⟩
  exact ⟨names, inner, List.mem_filterMap.mpr ⟨_, isKeptOfRoot, rfl⟩, innerMirrors⟩

theorem Category.map_ident_of_mirrors {rootName : String} {names : List String}
    {declared : List ClassDecl} {categories : List Category}
    (mirror : List.Forall₂ (Category.Mirrors rootName names) declared categories) :
    categories.map (fun c => c.ident) = declared.map fun d => d.name := by
  refine map_eq_map_of_forall₂ (mirror.imp fun d c mirrors => ?_)
  obtain ⟨ident, -⟩ := mirrors
  exact ident

theorem Layout.tellsApart_ident (surveyed : root.survey.1 = some l)
    (distinct : root.HasDistinctMembers) : l.TellsApart fun c => c.ident where
  top := by
    rw [Category.map_ident_of_mirrors (layout_mirrors_declarations surveyed)]
    exact distinct.classes root List.mem_cons_self
  inner c contains := by
    obtain ⟨names, declared, isKept, mirrors⟩ := ClassDecl.survey_contains surveyed contains
    obtain ⟨-, -, -, -, children, -⟩ := mirrors
    rw [Category.map_ident_of_mirrors (Category.allMirror_iff.mp children)]
    exact distinct.classes declared (List.mem_cons_of_mem root isKept)

theorem Layout.nodup_fieldNames (surveyed : root.survey.1 = some l)
    (distinct : root.HasDistinctMembers) {c : Category} (contains : l.Contains c) :
    (c.fields.map fun f => f.name).Nodup := by
  obtain ⟨names, declared, isKept, mirrors⟩ := ClassDecl.survey_contains surveyed contains
  obtain ⟨-, -, -, -, -, fields⟩ := mirrors
  have same : c.fields.map (fun f => f.name) = declared.configuredMembers.map fun f => f.name :=
    map_eq_map_of_forall₂ (fields.imp fun f field mirrors => mirrors.name)
  rw [same]
  exact distinct.fields declared (List.mem_cons_of_mem root isKept)

section EveryName

variable {P : String → Prop} (surveyed : root.survey.1 = some l)
include surveyed

theorem Layout.forall_ident (classes : ∀ c ∈ root.innerClasses, P c.name) {c : Category}
    (contains : l.Contains c) : P c.ident := by
  obtain ⟨names, declared, isInner, ident, -⟩ := ClassDecl.survey_contains surveyed contains
  rw [ident]
  exact classes declared isInner

theorem Layout.forall_fieldName
    (fields : ∀ c ∈ root.innerClasses, ∀ f ∈ c.configuredMembers, P f.name) {c : Category}
    (contains : l.Contains c) {f : Field} (isField : f ∈ c.fields) : P f.name := by
  obtain ⟨names, declared, isInner, -, -, -, -, -, mirrors⟩ :=
    ClassDecl.survey_contains surveyed contains
  obtain ⟨member, isMember, mirror⟩ := exists_of_mem_right mirrors isField
  rw [mirror.name]
  exact fields declared isInner member isMember

/-- What holds of the names that a root declares holds of those on the way down to any field. -/
theorem Layout.forall_target (classes : ∀ c ∈ root.innerClasses, P c.name)
    (fields : ∀ c ∈ root.innerClasses, ∀ f ∈ c.configuredMembers, P f.name) {p : PlacedField}
    (isIn : p.IsIn l) : ∀ name ∈ p.target, P name := by
  intro name isName
  rw [PlacedField.target, List.mem_append, List.mem_singleton] at isName
  obtain isAbove | rfl := isName
  · obtain ⟨c, isPassed, rfl⟩ := List.mem_map.mp isAbove
    exact Layout.forall_ident surveyed classes (Category.contains_of_trail? isIn.1 isPassed)
  · exact Layout.forall_fieldName surveyed fields isIn.1.contains (List.mem_of_getElem? isIn.2)

end EveryName

end ConfigBinding
