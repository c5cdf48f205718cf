import ConfigBinding.Proofs.Binding.Defaults
import ConfigBinding.Proofs.Layout.Siblings
import ConfigBinding.Proofs.Text.Names

/-!
# Joins by name

Stores and metadata know a category by its name alone. A name is made of declared names in lower
case, which are found again between its points. So names tell all categories apart exactly if no two
classes side by side differ in nothing but the case of letters.

* `Metadata.at?`, `Layout.category?_described`: one name finds one place in a layout and in its
  metadata;
* `Layout.placed_eq_of_name`: a name belongs to one place;
* `Layout.IsJoinedByName`, `joined_by_name_iff`: whether everything is found again by its name.
-/

namespace ConfigBinding

/-! ## Metadata by place -/

def MetaCategory.descend? (m : MetaCategory) : List Nat → Option MetaCategory
  | [] => some m
  | index :: rest => do
    let child ← m.children[index]?
    child.descend? rest

def Metadata.at? (m : Metadata) : List Nat → Option MetaCategory
  | [] => none
  | index :: rest => do
    let top ← m.categories[index]?
    top.descend? rest

/-- Whether metadata is that of a category, whatever there was above and before it. -/
def Category.IsDescribedBy (c : Category) (m : MetaCategory) : Prop :=
  ∃ above all, (c.metadata above all).1 = m

theorem Category.metadataAll_described (above : List String) (all : Converters)
    (siblings : List Category) :
    List.Forall₂ Category.IsDescribedBy siblings (Category.metadataAll above all siblings).1 := by
  induction siblings generalizing all with
  | nil => exact .nil
  | cons c rest inductionHypothesis => exact .cons ⟨above, all, rfl⟩ (inductionHypothesis _)

namespace Category.IsDescribedBy

variable {c : Category} {m : MetaCategory} (described : c.IsDescribedBy m)
include described

theorem name : m.name = c.name := by
  obtain ⟨above, all, rfl⟩ := described
  cases c
  rfl

theorem handle : m.handle = c.handle := by
  obtain ⟨above, all, rfl⟩ := described
  cases c
  rfl

theorem children : List.Forall₂ Category.IsDescribedBy c.children m.children := by
  obtain ⟨above, all, rfl⟩ := described
  cases c
  exact Category.metadataAll_described _ all _

end Category.IsDescribedBy

/-! ## Lookups by name -/

theorem Category.find?_eq (name : String) (c : Category) :
    c.find? name = if c.name = name then some c else Category.findAmong? name c.children := by
  cases c
  rfl

theorem MetaCategory.find?_eq (name : String) (m : MetaCategory) :
    m.find? name = if m.name = name then some m else MetaCategory.findAmong? name m.children := by
  cases m
  rfl

theorem Category.isSome_findAmong? {siblings : List Category} {c : Category}
    (isSibling : c ∈ siblings) {name : String} (found : (c.find? name).isSome) :
    (Category.findAmong? name siblings).isSome := by
  induction siblings with
  | nil => cases isSibling
  | cons first rest inductionHypothesis =>
    rw [Category.findAmong?]
    split
    next => rfl
    next notFirst =>
      obtain rfl | isLater := List.mem_cons.mp isSibling
      · rw [notFirst] at found
        cases found
      · exact inductionHypothesis isLater

theorem Category.Contains.isSome_find? {top c : Category} (contains : top.Contains c) :
    (top.find? c.name).isSome := by
  induction contains with
  | self c => simp [Category.find?_eq]
  | child isChild _ inductionHypothesis =>
    rw [Category.find?_eq]
    split
    next => rfl
    next => exact Category.isSome_findAmong? isChild inductionHypothesis

theorem Layout.Contains.isSome_category? {l : Layout} {c : Category} (contains : l.Contains c) :
    (l.category? c.name).isSome := by
  obtain ⟨top, isTop, inside⟩ := contains
  exact Category.isSome_findAmong? isTop inside.isSome_find?

/-- What a lookup by a name finds inside a category and inside its metadata: a category with this
    name, and the metadata at the same place. -/
structure Category.FoundTogether (name : String) (top : Category) (m : MetaCategory)
    (c : Category) (node : MetaCategory) : Prop where
  name : c.name = name
  described : c.IsDescribedBy node
  place : ∃ place below, Category.trail? top.children place = some below ∧
    (top :: below).getLast? = some c ∧ m.descend? place = some node

theorem Category.FoundTogether.child {name : String} {top child c : Category}
    {m childNode node : MetaCategory} {index : Nat} (isChild : top.children[index]? = some child)
    (isChildNode : m.children[index]? = some childNode)
    (found : child.FoundTogether name childNode c node) : top.FoundTogether name m c node := by
  obtain ⟨isNamed, described, place, below, reached, last, descends⟩ := found
  refine ⟨isNamed, described, index :: place, child :: below, ?_, ?_, ?_⟩
  · exact (Category.trail?_cons _ _ _ _).mpr ⟨child, below, isChild, reached, rfl⟩
  · rwa [List.getLast?_cons_cons]
  · simpa [MetaCategory.descend?, isChildNode] using descends

/-- Lookups among siblings stop at the same index. -/
theorem Category.findAmong?_described {name : String} {siblings : List Category}
    {nodes : List MetaCategory}
    (each : ∀ c ∈ siblings, ∀ m, c.IsDescribedBy m →
      Option.Rel (c.FoundTogether name m) (c.find? name) (m.find? name))
    (described : List.Forall₂ Category.IsDescribedBy siblings nodes) :
    Option.Rel
      (fun found node => ∃ (index : Nat) (c : Category) (m : MetaCategory),
        siblings[index]? = some c ∧ nodes[index]? = some m ∧ c.FoundTogether name m found node)
      (Category.findAmong? name siblings) (MetaCategory.findAmong? name nodes) := by
  induction described with
  | nil => exact .none
  | @cons c m rest restNodes isDescribed _ inductionHypothesis =>
    have first := each c List.mem_cons_self m isDescribed
    have others := inductionHypothesis fun other isOther =>
      each other (List.mem_cons_of_mem c isOther)
    rw [Category.findAmong?, MetaCategory.findAmong?]
    generalize c.find? name = found, m.find? name = node at first
    cases first with
    | some together => exact .some ⟨0, c, m, rfl, rfl, together⟩
    | none =>
      refine rel_imp others ?_
      rintro found node ⟨index, d, n, isSibling, isNode, together⟩
      exact ⟨index + 1, d, n, isSibling, isNode, together⟩

theorem Category.find?_described (name : String) {c : Category} {m : MetaCategory}
    (described : c.IsDescribedBy m) :
    Option.Rel (c.FoundTogether name m) (c.find? name) (m.find? name) := by
  induction c using Category.induction generalizing m with
  | step c inductionHypothesis =>
    rw [Category.find?_eq, MetaCategory.find?_eq, described.name]
    split
    next isNamed => exact .some ⟨isNamed, described, [], [], rfl, rfl, rfl⟩
    next =>
      have inside := Category.findAmong?_described
        (fun child isChild m isDescribed => inductionHypothesis child isChild isDescribed)
        described.children
      refine rel_imp inside ?_
      rintro found node ⟨index, child, childNode, isChild, isChildNode, together⟩
      exact together.child isChild isChildNode

/-- A name leads to the same place in a layout and in its metadata, or to none in both. -/
theorem Layout.category?_described (l : Layout) (name : String) :
    Option.Rel
      (fun c node => c.name = name ∧ c.IsDescribedBy node ∧
        ∃ placed : PlacedCategory, placed.IsIn l ∧ placed.category = c ∧
          (Metadata.ofLayout l).at? placed.place = some node)
      (l.category? name) ((Metadata.ofLayout l).find? name) := by
  have among := Category.findAmong?_described (fun _ _ _ => Category.find?_described name)
    (Category.metadataAll_described [] [] l.categories)
  refine rel_imp among ?_
  rintro c node ⟨index, top, topNode, isTop, isTopNode, isNamed, described, place, below, reached,
    last, descends⟩
  obtain ⟨above, trail⟩ := List.getLast?_eq_some_iff.mp last
  refine ⟨isNamed, described, ⟨index :: place, above, c⟩, ?_, rfl, ?_⟩
  · exact (Category.trail?_cons _ _ _ _).mpr ⟨top, below, isTop, reached, trail.symm⟩
  · have isFirst : (Metadata.ofLayout l).categories[index]? = some topNode := isTopNode
    simpa [Metadata.at?, isFirst] using descends

/-! ## Names that are told apart -/

/-- Where siblings are found by their names, lower case does not bring two of them together. -/
theorem Category.nodup_lowercase {l : Layout} {rootName : String} {names : List String}
    {declared : List ClassDecl} {siblings : List Category}
    (mirror : List.Forall₂ (Category.Mirrors rootName names) declared siblings)
    (found : ∀ c ∈ siblings, l.category? c.name = some c)
    (distinct : (siblings.map fun c => c.ident).Nodup) :
    (siblings.map fun c => Text.lowercase c.ident).Nodup := by
  rw [List.Nodup, List.pairwise_map] at distinct ⊢
  refine distinct.imp_of_mem ?_
  intro c other isSibling isOther different same
  obtain ⟨d, -, ident, name, -⟩ := exists_of_mem_right mirror isSibling
  obtain ⟨otherDeclared, -, otherIdent, otherName, -⟩ := exists_of_mem_right mirror isOther
  have sameName : c.name = other.name := by
    rw [name, otherName, List.map_append, List.map_append, List.map_singleton, List.map_singleton,
      ← ident, ← otherIdent, same]
  have foundFirst := found c isSibling
  rw [sameName, found other isOther] at foundFirst
  cases foundFirst
  exact different rfl

section Surveyed

variable {root : ClassDecl} {l : Layout} (surveyed : root.survey.1 = some l)
include surveyed

theorem Layout.point_not_mem_ident (plain : root.HasPlainNames) {c : Category}
    (contains : l.Contains c) : '.' ∉ c.ident.toList :=
  Layout.forall_ident (P := fun name => '.' ∉ name.toList) surveyed plain contains

theorem PlacedCategory.IsIn.isNamed {placed : PlacedCategory} (isIn : placed.IsIn l) :
    placed.IsNamed :=
  ClassDecl.survey_isSound surveyed (.category placed) ((Layout.mem_parts l _).mpr isIn)

/-- Lower case brings no points into names. -/
theorem Layout.point_not_mem_trail (plain : root.HasPlainNames) {placed : PlacedCategory}
    (isIn : placed.IsIn l) :
    ∀ name ∈ placed.trail.map fun c => Text.lowercase c.ident, '.' ∉ name.toList := by
  intro name isName
  obtain ⟨c, isPassed, rfl⟩ := List.mem_map.mp isName
  have contains : l.Contains c := Category.contains_of_trail? isIn isPassed
  exact Text.point_not_mem_lowercase (Layout.point_not_mem_ident surveyed plain contains)

theorem Layout.placed_eq_of_name (plain : root.HasPlainNames)
    (apart : l.TellsApart fun c => Text.lowercase c.ident) {p q : PlacedCategory} (isIn : p.IsIn l)
    (otherIsIn : q.IsIn l) (same : p.category.name = q.category.name) : p = q := by
  have nonempty : ∀ placed : PlacedCategory,
      (placed.trail.map fun c => Text.lowercase c.ident) ≠ [] := by
    intro placed
    simp [PlacedCategory.trail]
  rw [isIn.isNamed surveyed, otherIsIn.isNamed surveyed] at same
  apply Layout.placed_eq_of_keys apart isIn otherIsIn
  exact eq_of_intercalate_point (nonempty p) (Layout.point_not_mem_trail surveyed plain isIn)
    (nonempty q) (Layout.point_not_mem_trail surveyed plain otherIsIn) same

theorem Layout.nodup_storeKeys (distinct : root.HasDistinctMembers) (plain : root.HasPlainNames)
    (apart : l.TellsApart fun c => Text.lowercase c.ident) :
    ((StoreLoader.ofLayout l).fields.map StoreField.storeKey).Nodup := by
  rw [Layout.storeKeys_eq (ClassDecl.survey_isSound surveyed)]
  refine Layout.nodup_map_usableFields fun u v isIn otherIsIn same => ?_
  obtain ⟨sameName, sameKey⟩ := Prod.mk.inj same
  have sameSite := Layout.placed_eq_of_name surveyed plain apart isIn.1 otherIsIn.1 sameName
  have names := Layout.nodup_fieldNames surveyed distinct isIn.1.contains
  exact PlacedField.eq_of_keys isIn otherIsIn sameSite names sameKey

end Surveyed

/-- Whether fields have different places in a store, and categories and their metadata are found
    again by their names. -/
structure Layout.IsJoinedByName (l : Layout) : Prop where
  keys : ((StoreLoader.ofLayout l).fields.map StoreField.storeKey).Nodup
  categories : ∀ placed : PlacedCategory, placed.IsIn l →
    l.category? placed.category.name = some placed.category
  metadata : ∀ placed : PlacedCategory, placed.IsIn l →
    ∃ node, (Metadata.ofLayout l).at? placed.place = some node ∧
      node.name = placed.category.name ∧ node.handle = placed.category.handle ∧
      (Metadata.ofLayout l).find? placed.category.name = some node

theorem Layout.isJoinedByName {l : Layout}
    (keys : ((StoreLoader.ofLayout l).fields.map StoreField.storeKey).Nodup)
    (names : ∀ p q : PlacedCategory, p.IsIn l → q.IsIn l → p.category.name = q.category.name →
      p = q) : l.IsJoinedByName := by
  have found : ∀ placed : PlacedCategory, placed.IsIn l →
      ∃ node, l.category? placed.category.name = some placed.category ∧
        (Metadata.ofLayout l).find? placed.category.name = some node ∧
        placed.category.IsDescribedBy node ∧
        (Metadata.ofLayout l).at? placed.place = some node := by
    intro placed isIn
    obtain ⟨c, isFound⟩ := Option.isSome_iff_exists.mp isIn.contains.isSome_category?
    have described := l.category?_described placed.category.name
    rw [isFound] at described
    generalize (Metadata.ofLayout l).find? placed.category.name = node at described ⊢
    cases described with
    | some together =>
      obtain ⟨isNamed, isDescribed, other, otherIsIn, rfl, stands⟩ := together
      cases names other placed otherIsIn isIn isNamed
      exact ⟨_, isFound, rfl, isDescribed, stands⟩
  refine ⟨keys, fun placed isIn => ?_, fun placed isIn => ?_⟩
  · obtain ⟨-, isFound, -⟩ := found placed isIn
    exact isFound
  · obtain ⟨node, -, isFound, described, stands⟩ := found placed isIn
    exact ⟨node, stands, described.name, described.handle, isFound⟩

/-- Where members that are kept of a class differ in name and no name of a class has a point in it,
    everything is joined by name exactly if no two classes side by side have one name in lower
    case. Whether anything was reported does not matter. -/
theorem joined_by_name_iff {root : ClassDecl} {l : Layout} (surveyed : root.survey.1 = some l)
    (distinct : root.HasDistinctMembers) (plain : root.HasPlainNames) :
    l.IsJoinedByName ↔ l.TellsApart fun c => Text.lowercase c.ident := by
  constructor
  · intro joined
    have declared := Layout.tellsApart_ident surveyed distinct
    have found : ∀ c, l.Contains c → l.category? c.name = some c := by
      intro c contains
      obtain ⟨placed, isIn, rfl⟩ := contains.exists_placed
      exact joined.categories placed isIn
    constructor
    case top =>
      have foundTop : ∀ c ∈ l.categories, l.category? c.name = some c :=
        fun c isTop => found c ⟨c, isTop, .self c⟩
      exact Category.nodup_lowercase (layout_mirrors_declarations surveyed) foundTop declared.top
    case inner =>
      intro c contains
      obtain ⟨names, d, -, -, -, -, -, children, -⟩ := ClassDecl.survey_contains surveyed contains
      have foundInner : ∀ child ∈ c.children, l.category? child.name = some child :=
        fun child isChild => found child (contains.child isChild)
      exact Category.nodup_lowercase (Category.allMirror_iff.mp children) foundInner
        (declared.inner c contains)
  · intro apart
    exact Layout.isJoinedByName (Layout.nodup_storeKeys surveyed distinct plain apart)
      fun p q => Layout.placed_eq_of_name surveyed plain apart

/-- A root with categories that have one name at different places, and names that differ in more
    than the case of letters. -/
def houseRoot : ClassDecl :=
  { ClassDecl.named "House" with
    members :=
      [.nested
          { ClassDecl.named "Door" with
            members :=
              [.nested
                  { ClassDecl.named "Lock" with
                    members := [.field (FieldDecl.named "size" (.primitive "int"))] },
                .field (FieldDecl.named "size" (.primitive "int"))] },
        .nested
          { ClassDecl.named "BackDoor" with
            members :=
              [.nested
                  { ClassDecl.named "lock" with
                    members := [.field (FieldDecl.named "size" (.primitive "int"))] }] }] }

def houseLayout : Layout := houseRoot.survey.1.get rfl

theorem houseRoot_joined_by_name :
    houseRoot.survey.1 = some houseLayout ∧ houseRoot.HasDistinctMembers ∧
      houseRoot.HasPlainNames ∧ houseLayout.IsJoinedByName ∧
      (StoreLoader.ofLayout houseLayout).fields.map StoreField.storeKey =
        [("door.lock", "size"), ("door", "size"), ("backdoor.lock", "size")] := by
  have surveyed : houseRoot.survey.1 = some houseLayout := (Option.some_get _).symm
  have distinct : houseRoot.HasDistinctMembers := by decide +kernel
  have plain : houseRoot.HasPlainNames := by decide +kernel
  have apart : houseLayout.TellsApart fun c => Text.lowercase c.ident := by decide +kernel
  exact ⟨surveyed, distinct, plain, (joined_by_name_iff surveyed distinct plain).mpr apart,
    by decide +kernel⟩

/-- A root with classes side by side that differ in the case of a letter only. -/
def parkRoot : ClassDecl :=
  { ClassDecl.named "Park" with
    members :=
      [.nested
          { ClassDecl.named "OakTree" with
            members := [.field (FieldDecl.named "age" (.primitive "int"))] },
        .nested
          { ClassDecl.named "Oaktree" with
            members := [.field (FieldDecl.named "age" (.primitive "int"))] }] }

def parkLayout : Layout := parkRoot.survey.1.get rfl

/-- Nothing is reported, and yet two fields share a setting, and a name finds only one category. -/
theorem parkRoot_shares_a_key :
    parkRoot.HasDistinctMembers ∧ parkRoot.HasPlainNames ∧ parkRoot.survey.1 = some parkLayout ∧
      parkRoot.survey.2 = [] ∧
      (StoreLoader.ofLayout parkLayout).fields.map StoreField.storeKey =
        [("oaktree", "age"), ("oaktree", "age")] ∧
      ¬ parkLayout.IsJoinedByName := by
  have surveyed : parkRoot.survey.1 = some parkLayout := (Option.some_get _).symm
  refine ⟨by decide +kernel, by decide +kernel, surveyed, by decide +kernel, by decide +kernel, ?_⟩
  intro joined
  exact absurd joined.keys (by decide +kernel)

end ConfigBinding
