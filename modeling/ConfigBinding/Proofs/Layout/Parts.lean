import ConfigBinding.Layout.Basic
import Mathlib.Data.List.Basic
import Mathlib.Tactic.Common

/-!
# Parts of a layout

The categories and fields of a layout, each with the place where it stands, in the order in which
bindings go through them: what is inside a category comes before the category itself, and inner
categories before fields. Categories and fields may repeat names, so a part is told apart by its
place.

* `Layout.parts`, `Layout.usableFields`: the parts, and the fields of usable types among them;
* `Category.trail?`: the categories that lead down to a place;
* `Layout.mem_parts`: the parts are exactly what stands at the places of the layout;
* `Layout.pairwise_parts`: no part is listed twice, and none after a category that it lies in;
* `Layout.flatMap_eq_filterMap_parts`: what is made category by category is made part by part.
-/

namespace ConfigBinding

structure PlacedCategory where
  /-- The indices down to the category, each among the children of the category before. -/
  place : List Nat
  /-- The categories around it, the outermost first. -/
  above : List Category
  category : Category

structure PlacedField where
  site : PlacedCategory
  index : Nat
  field : Field

inductive LayoutPart where
  | field (placed : PlacedField)
  | category (placed : PlacedCategory)

/-- A field of a usable type, with its type and default. -/
structure UsableField extends PlacedField where
  type : FieldType
  default : Value

namespace PlacedCategory

/-- The categories down to a category, itself the last. -/
def trail (placed : PlacedCategory) : List Category := placed.above ++ [placed.category]

/-- The declared names down to a category. -/
def path (placed : PlacedCategory) : List String := placed.trail.map Category.ident

end PlacedCategory

def PlacedField.target (placed : PlacedField) : List String :=
  placed.site.path ++ [placed.field.name]

namespace LayoutPart

/-- The category that a part is or lies in. -/
def site : LayoutPart → PlacedCategory
  | .field placed => placed.site
  | .category placed => placed

/-- Whether a part is a category or lies anywhere inside it. -/
def IsWithin (part : LayoutPart) (outer : LayoutPart) : Prop :=
  match outer with
  | .category placed => placed.place <+: part.site.place
  | .field _ => False

def usable? : LayoutPart → Option UsableField
  | .field placed => placed.field.resolved?.map fun (type, default) => { placed with type, default }
  | .category _ => none

end LayoutPart

mutual

/-- The parts of a category that stands at a place inside others. -/
def Category.parts (place : List Nat) (above : List Category) : Category → List LayoutPart
  | c@{ children, .. } =>
    Category.partsFrom 0 place (above ++ [c]) children ++
      c.fields.zipIdx.map (fun (field, index) => .field ⟨⟨place, above, c⟩, index, field⟩) ++
      [.category ⟨place, above, c⟩]

/-- The parts of the children of the category at a place, the first of which has an index. -/
def Category.partsFrom (index : Nat) (place : List Nat) (above : List Category) :
    List Category → List LayoutPart
  | [] => []
  | c :: rest =>
    c.parts (place ++ [index]) above ++ Category.partsFrom (index + 1) place above rest

end

namespace Layout

def parts (l : Layout) : List LayoutPart := Category.partsFrom 0 [] [] l.categories

def usableFields (l : Layout) : List UsableField := l.parts.filterMap LayoutPart.usable?

end Layout

/-! ## What stands at a place -/

/-- The categories that indices lead down to, beginning among siblings. -/
def Category.trail? (siblings : List Category) : List Nat → Option (List Category)
  | [] => some []
  | index :: rest => do
    let c ← siblings[index]?
    let below ← Category.trail? c.children rest
    return c :: below

def PlacedCategory.IsIn (placed : PlacedCategory) (l : Layout) : Prop :=
  Category.trail? l.categories placed.place = some placed.trail

def PlacedField.IsIn (placed : PlacedField) (l : Layout) : Prop :=
  placed.site.IsIn l ∧ placed.site.category.fields[placed.index]? = some placed.field

def LayoutPart.IsIn : LayoutPart → Layout → Prop
  | .field placed, l => placed.IsIn l
  | .category placed, l => placed.IsIn l

theorem Category.trail?_cons (siblings : List Category) (index : Nat) (rest : List Nat)
    (trail : List Category) :
    Category.trail? siblings (index :: rest) = some trail ↔
      ∃ c below, siblings[index]? = some c ∧ Category.trail? c.children rest = some below ∧
        trail = c :: below := by
  simp only [Category.trail?, Option.bind_eq_bind, Option.bind_eq_some_iff, Option.pure_def,
    Option.some.injEq]
  constructor
  · rintro ⟨c, found, below, reached, rfl⟩
    exact ⟨c, below, found, reached, rfl⟩
  · rintro ⟨c, below, found, reached, rfl⟩
    exact ⟨c, found, below, reached, rfl⟩

/-! ## The list of parts -/

/-- A property holds of all categories when it passes from the children to a category. -/
theorem Category.induction {motive : Category → Prop}
    (step : ∀ c, (∀ child ∈ c.children, motive child) → motive c) (c : Category) : motive c :=
  step c fun child _ => Category.induction step child
termination_by sizeOf c
decreasing_by
  rename_i member
  have smaller := List.sizeOf_lt_of_mem member
  cases c
  simp only [Category.mk.sizeOf_spec] at *
  omega

theorem Category.partsFrom_eq_flatMap (index : Nat) (place : List Nat) (above : List Category)
    (siblings : List Category) :
    Category.partsFrom index place above siblings =
      (siblings.zipIdx index).flatMap fun (c, i) => c.parts (place ++ [i]) above := by
  induction siblings generalizing index with
  | nil => rfl
  | cons c rest inductionHypothesis =>
    simp only [Category.partsFrom, inductionHypothesis, List.zipIdx_cons, List.flatMap_cons]

theorem Category.parts_eq (place : List Nat) (above : List Category) (c : Category) :
    c.parts place above =
      (c.children.zipIdx.flatMap fun (child, i) => child.parts (place ++ [i]) (above ++ [c])) ++
        c.fields.zipIdx.map (fun (field, index) => .field ⟨⟨place, above, c⟩, index, field⟩) ++
        [.category ⟨place, above, c⟩] := by
  rw [← Category.partsFrom_eq_flatMap]
  cases c
  rfl

/-- Whether a field is the one that its category has at its index. -/
def LayoutPart.IsSeated : LayoutPart → Prop
  | .field placed => placed.site.category.fields[placed.index]? = some placed.field
  | .category _ => True

theorem LayoutPart.isIn_iff (part : LayoutPart) (l : Layout) :
    part.IsIn l ↔ part.site.IsIn l ∧ part.IsSeated := by
  cases part <;> simp [LayoutPart.IsIn, LayoutPart.IsSeated, LayoutPart.site, PlacedField.IsIn]

theorem PlacedCategory.eq_of_trail {placed : PlacedCategory} {place : List Nat}
    {above : List Category} {c : Category} (samePlace : placed.place = place)
    (sameTrail : placed.trail = above ++ [c]) : placed = ⟨place, above, c⟩ := by
  obtain ⟨rfl, last⟩ := List.append_inj' sameTrail rfl
  cases last
  cases samePlace
  rfl

theorem Category.mem_parts (c : Category) (place : List Nat) (above : List Category)
    (part : LayoutPart) :
    part ∈ c.parts place above ↔
      ∃ descent below, part.site.place = place ++ descent ∧
        part.site.trail = above ++ c :: below ∧
        Category.trail? c.children descent = some below ∧ part.IsSeated := by
  induction c using Category.induction generalizing place above with
  | step c inductionHypothesis =>
    rw [Category.parts_eq]
    constructor
    · intro member
      simp only [List.mem_append, List.mem_flatMap, List.mem_map, List.mem_singleton] at member
      obtain (⟨⟨child, index⟩, found, inside⟩ | ⟨⟨field, index⟩, found, rfl⟩) | rfl := member
      · -- What stands below a child stands below the category, one index further up.
        rw [List.mem_zipIdx_iff_getElem?] at found
        obtain ⟨descent, below, placeEq, trailEq, reached, seated⟩ :=
          (inductionHypothesis child (List.mem_of_getElem? found) _ _).mp inside
        refine ⟨index :: descent, child :: below, ?_, ?_, ?_, seated⟩
        · rw [placeEq, List.append_assoc, List.singleton_append]
        · rw [trailEq, List.append_assoc, List.singleton_append]
        · exact (Category.trail?_cons _ _ _ _).mpr ⟨child, below, found, reached, rfl⟩
      · rw [List.mem_zipIdx_iff_getElem?] at found
        exact ⟨[], [], by simp [LayoutPart.site], rfl, rfl, found⟩
      · exact ⟨[], [], by simp [LayoutPart.site], rfl, rfl, trivial⟩
    · rintro ⟨descent, below, placeEq, trailEq, reached, seated⟩
      simp only [List.mem_append, List.mem_flatMap, List.mem_map, List.mem_singleton]
      cases descent with
      | nil =>
        cases reached
        have siteEq := PlacedCategory.eq_of_trail (placeEq.trans (List.append_nil place)) trailEq
        cases part with
        | field placed =>
          obtain ⟨site, index, field⟩ := placed
          cases siteEq
          exact .inl (.inr ⟨(field, index), List.mem_zipIdx_iff_getElem?.mpr seated, rfl⟩)
        | category placed =>
          cases siteEq
          exact .inr rfl
      | cons index descent =>
        obtain ⟨child, rest, found, childReached, rfl⟩ := (Category.trail?_cons _ _ _ _).mp reached
        refine .inl (.inl ⟨(child, index), List.mem_zipIdx_iff_getElem?.mpr found, ?_⟩)
        apply (inductionHypothesis child (List.mem_of_getElem? found) _ _).mpr
        exact ⟨descent, rest, by simpa using placeEq, by simpa using trailEq, childReached, seated⟩

/-- The parts of a layout are exactly what stands at its places. -/
theorem Layout.mem_parts (l : Layout) (part : LayoutPart) : part ∈ l.parts ↔ part.IsIn l := by
  rw [Layout.parts, Category.partsFrom_eq_flatMap, LayoutPart.isIn_iff, PlacedCategory.IsIn]
  simp only [List.mem_flatMap, Prod.exists, List.mem_zipIdx_iff_getElem?, Category.mem_parts]
  constructor
  · rintro ⟨c, index, found, descent, below, placeEq, trailEq, reached, seated⟩
    rw [placeEq, trailEq]
    exact ⟨(Category.trail?_cons _ _ _ _).mpr ⟨c, below, found, reached, rfl⟩, seated⟩
  · rintro ⟨stands, seated⟩
    cases placeIs : part.site.place with
    | nil => simp [placeIs, Category.trail?, PlacedCategory.trail] at stands
    | cons index descent =>
      rw [placeIs] at stands
      obtain ⟨c, below, found, reached, trailEq⟩ := (Category.trail?_cons _ _ _ _).mp stands
      exact ⟨c, index, found, descent, below, rfl, trailEq, reached, seated⟩

theorem Category.prefix_of_mem_parts {c : Category} {place : List Nat} {above : List Category}
    {part : LayoutPart} (member : part ∈ c.parts place above) : place <+: part.site.place := by
  obtain ⟨descent, _, placeEq, _⟩ := (Category.mem_parts c place above part).mp member
  exact ⟨descent, placeEq.symm⟩

/-- Places below different children of one category are different. -/
theorem eq_of_prefix_append_singleton {place inner : List Nat} {i j : Nat}
    (first : place ++ [i] <+: inner) (second : place ++ [j] <+: inner) : i = j := by
  obtain ⟨firstRest, rfl⟩ := first
  obtain ⟨secondRest, same⟩ := second
  simp only [List.append_assoc, List.singleton_append, List.append_cancel_left_eq,
    List.cons.injEq] at same
  exact same.1.symm

/-- What may stand before what in a list of parts. -/
def LayoutPart.Precedes (earlier later : LayoutPart) : Prop :=
  earlier ≠ later ∧ ¬ later.IsWithin earlier

theorem pairwise_index_zipIdx {α : Type} (items : List α) (start : Nat) :
    (items.zipIdx start).Pairwise fun first second => first.2 < second.2 := by
  induction items generalizing start with
  | nil => exact .nil
  | cons item rest inductionHypothesis =>
    exact .cons (fun _ member => List.le_snd_of_mem_zipIdx member)
      (inductionHypothesis (start + 1))

/-- Parts of a child do not hold what stands at the place of its parent or beside the child. -/
theorem Category.precedes_of_not_prefix {child : Category} {place : List Nat}
    {above : List Category} {part later : LayoutPart} (member : part ∈ child.parts place above)
    (outside : ¬ place <+: later.site.place) : part.Precedes later := by
  have below := Category.prefix_of_mem_parts member
  refine ⟨?_, ?_⟩
  · rintro rfl
    exact outside below
  · intro within
    cases part with
    | field placed => exact within
    | category placed => exact outside (below.trans within)

/-- Parts of siblings are told apart by the index that leads to their sibling. -/
theorem Category.pairwise_siblings {siblings : List Category} (place : List Nat)
    (above : List Category)
    (each : ∀ c ∈ siblings, ∀ i, (c.parts (place ++ [i]) above).Pairwise LayoutPart.Precedes) :
    (siblings.zipIdx.flatMap fun (c, i) => c.parts (place ++ [i]) above).Pairwise
      LayoutPart.Precedes := by
  rw [List.pairwise_flatMap]
  refine ⟨fun ⟨c, i⟩ found => ?_, ?_⟩
  · exact each c (List.mem_of_getElem? (List.mem_zipIdx_iff_getElem?.mp found)) i
  · refine (pairwise_index_zipIdx siblings 0).imp fun {first second} less => ?_
    intro earlier earlierMember later laterMember
    apply Category.precedes_of_not_prefix earlierMember
    intro prefixed
    have same := eq_of_prefix_append_singleton prefixed (Category.prefix_of_mem_parts laterMember)
    omega

theorem Category.pairwise_parts (c : Category) (place : List Nat) (above : List Category) :
    (c.parts place above).Pairwise LayoutPart.Precedes := by
  induction c using Category.induction generalizing place above with
  | step c inductionHypothesis =>
    have notBelow : ∀ i, ¬ place ++ [i] <+: place := by
      intro i prefixed
      have longer := prefixed.length_le
      simp only [List.length_append, List.length_singleton] at longer
      omega
    rw [Category.parts_eq, List.pairwise_append, List.pairwise_append]
    refine ⟨⟨?children, ?fields, ?fieldsLater⟩, List.pairwise_singleton _ _, ?categoryLast⟩
    case children =>
      exact Category.pairwise_siblings _ _ fun child isChild i =>
        inductionHypothesis child isChild _ _
    case fields =>
      rw [List.pairwise_map]
      refine (pairwise_index_zipIdx c.fields 0).imp fun {first second} less => ?_
      refine ⟨?_, id⟩
      intro same
      simp only [LayoutPart.field.injEq, PlacedField.mk.injEq] at same
      omega
    case fieldsLater =>
      intro earlier earlierMember later laterMember
      obtain ⟨⟨child, i⟩, -, inside⟩ := List.mem_flatMap.mp earlierMember
      obtain ⟨⟨field, index⟩, -, rfl⟩ := List.mem_map.mp laterMember
      exact Category.precedes_of_not_prefix inside (notBelow i)
    case categoryLast =>
      intro earlier earlierMember later laterMember
      cases List.mem_singleton.mp laterMember
      obtain inChild | isField := List.mem_append.mp earlierMember
      · obtain ⟨⟨child, i⟩, -, inside⟩ := List.mem_flatMap.mp inChild
        exact Category.precedes_of_not_prefix inside (notBelow i)
      · obtain ⟨⟨field, index⟩, -, rfl⟩ := List.mem_map.mp isField
        exact ⟨nofun, id⟩

/-- No part is listed twice, and none after a category that it lies in. -/
theorem Layout.pairwise_parts (l : Layout) : l.parts.Pairwise LayoutPart.Precedes := by
  rw [Layout.parts, Category.partsFrom_eq_flatMap]
  exact Category.pairwise_siblings [] [] fun c _ i => Category.pairwise_parts c _ _

/-! ## Going through the parts -/

/-- What a part contributes, of what fields at a path and categories contribute. -/
def LayoutPart.contribution? {β : Type} (ofField : List String → Category → Field → Option β)
    (ofCategory : Category → Option β) : LayoutPart → Option β
  | .field placed => ofField placed.site.path placed.site.category placed.field
  | .category placed => ofCategory placed.category

section Contributions

variable {β : Type} {made : List String → Category → List β}
  {ofField : List String → Category → Field → Option β} {ofCategory : Category → Option β}

/-- The index of a sibling is part of its place only, and what is made does not see it. -/
theorem Category.made_siblings_eq {siblings : List Category} (place : List Nat)
    (above : List Category)
    (each : ∀ c ∈ siblings, ∀ i, made (above.map Category.ident) c =
      (c.parts (place ++ [i]) above).filterMap (LayoutPart.contribution? ofField ofCategory)) :
    siblings.flatMap (made (above.map Category.ident)) =
      (siblings.zipIdx.flatMap fun (c, i) => c.parts (place ++ [i]) above).filterMap
        (LayoutPart.contribution? ofField ofCategory) := by
  rw [List.filterMap_flatMap]
  conv_lhs => rw [← List.zipIdx_map_fst 0 siblings, List.flatMap_map]
  refine List.flatMap_congr fun ⟨c, i⟩ found => ?_
  exact each c (List.mem_of_getElem? (List.mem_zipIdx_iff_getElem?.mp found)) i

theorem Category.made_eq_filterMap_parts
    (unfolds : ∀ above c, made above c =
      c.children.flatMap (made (above ++ [c.ident])) ++
        c.fields.filterMap (ofField (above ++ [c.ident]) c) ++ (ofCategory c).toList)
    (c : Category) (place : List Nat) (above : List Category) :
    made (above.map Category.ident) c =
      (c.parts place above).filterMap (LayoutPart.contribution? ofField ofCategory) := by
  induction c using Category.induction generalizing place above with
  | step c inductionHypothesis =>
    have pathEq : above.map Category.ident ++ [c.ident] = (above ++ [c]).map Category.ident := by
      simp
    have children := Category.made_siblings_eq place (above ++ [c])
      fun child isChild i => inductionHypothesis child isChild (place ++ [i]) (above ++ [c])
    have fields : c.fields.filterMap (ofField ((above ++ [c]).map Category.ident) c) =
        (c.fields.zipIdx.map fun (field, index) =>
          LayoutPart.field ⟨⟨place, above, c⟩, index, field⟩).filterMap
            (LayoutPart.contribution? ofField ofCategory) := by
      rw [List.filterMap_map]
      conv_lhs => rw [← List.zipIdx_map_fst 0 c.fields, List.filterMap_map]
      rfl
    have last : (ofCategory c).toList = [LayoutPart.category ⟨place, above, c⟩].filterMap
        (LayoutPart.contribution? ofField ofCategory) := by
      simp only [List.filterMap_cons, List.filterMap_nil, LayoutPart.contribution?]
      cases ofCategory c <;> rfl
    rw [unfolds, pathEq, children, fields, last, Category.parts_eq, List.filterMap_append,
      List.filterMap_append]

theorem Layout.flatMap_eq_filterMap_parts
    (unfolds : ∀ above c, made above c =
      c.children.flatMap (made (above ++ [c.ident])) ++
        c.fields.filterMap (ofField (above ++ [c.ident]) c) ++ (ofCategory c).toList)
    (l : Layout) :
    l.categories.flatMap (made []) =
      l.parts.filterMap (LayoutPart.contribution? ofField ofCategory) := by
  rw [Layout.parts, Category.partsFrom_eq_flatMap]
  exact Category.made_siblings_eq [] [] fun c _ i =>
    Category.made_eq_filterMap_parts unfolds c _ []

end Contributions

end ConfigBinding
