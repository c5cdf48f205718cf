import ConfigBinding.Proofs.Binding.JoinKeys

/-!
# Lookups of categories

A layout and its metadata are searched for a name in the order of declaration: a category comes
before those inside it, and these come before the next one beside it. Names may be repeated, so what
counts is which category has the name first.

* `Layout.preorder`: all categories in the order of declaration;
* `Layout.category?_eq`: a lookup finds the first of them that has the name;
* `Category.IsShownBy`: what the metadata of a category tells about it;
* `lookups_agree`: lookups in layouts and in metadata.
-/

namespace ConfigBinding

/-! ## The order of declaration -/

mutual

/-- A category and those inside it, in the order of declaration. -/
def Category.preorder : Category → List Category
  | c@{ children, .. } => c :: Category.preorderAll children

def Category.preorderAll : List Category → List Category
  | [] => []
  | c :: rest => c.preorder ++ Category.preorderAll rest

end

def Layout.preorder (l : Layout) : List Category := Category.preorderAll l.categories

theorem Category.preorder_eq (c : Category) :
    c.preorder = c :: Category.preorderAll c.children := by
  cases c
  rfl

theorem Category.mem_preorderAll {siblings : List Category} {c : Category} :
    c ∈ Category.preorderAll siblings ↔ ∃ top ∈ siblings, c ∈ top.preorder := by
  induction siblings with
  | nil => simp [Category.preorderAll]
  | cons first rest inductionHypothesis =>
    simp [Category.preorderAll, inductionHypothesis]

theorem Category.contains_iff {top c : Category} :
    top.Contains c ↔ c = top ∨ ∃ child ∈ top.children, child.Contains c := by
  constructor
  · intro contains
    cases contains with
    | self => exact .inl rfl
    | child isChild inside => exact .inr ⟨_, isChild, inside⟩
  · rintro (rfl | ⟨child, isChild, inside⟩)
    · exact .self c
    · exact .child isChild inside

theorem Category.mem_preorder {top c : Category} : c ∈ top.preorder ↔ top.Contains c := by
  induction top using Category.induction with
  | step top inductionHypothesis =>
    rw [Category.preorder_eq, List.mem_cons, Category.mem_preorderAll, Category.contains_iff]
    refine or_congr_right (exists_congr fun child => and_congr_right fun isChild => ?_)
    exact inductionHypothesis child isChild

theorem Layout.mem_preorder {l : Layout} {c : Category} : c ∈ l.preorder ↔ l.Contains c := by
  rw [Layout.preorder, Category.mem_preorderAll]
  exact exists_congr fun top => and_congr_right fun _ => Category.mem_preorder

/-! ## Lookups -/

theorem Category.findAmong?_eq {name : String} {siblings : List Category}
    (each : ∀ c ∈ siblings, c.find? name = c.preorder.find? fun d => d.name = name) :
    Category.findAmong? name siblings =
      (Category.preorderAll siblings).find? fun d => d.name = name := by
  induction siblings with
  | nil => rfl
  | cons c rest inductionHypothesis =>
    obtain ⟨first, others⟩ := List.forall_mem_cons.mp each
    rw [Category.findAmong?, Category.preorderAll, List.find?_append, ← first,
      inductionHypothesis others]
    cases c.find? name <;> rfl

theorem Category.find?_eq_find?_preorder (name : String) (c : Category) :
    c.find? name = c.preorder.find? fun d => d.name = name := by
  induction c using Category.induction with
  | step c inductionHypothesis =>
    rw [Category.find?_eq, Category.preorder_eq, Category.findAmong?_eq inductionHypothesis]
    by_cases isNamed : c.name = name
    · rw [if_pos isNamed, List.find?_cons_of_pos (by simpa using isNamed)]
    · rw [if_neg isNamed, List.find?_cons_of_neg (by simpa using isNamed)]

theorem Layout.category?_eq (l : Layout) (name : String) :
    l.category? name = l.preorder.find? fun c => c.name = name :=
  Category.findAmong?_eq fun c _ => Category.find?_eq_find?_preorder name c

theorem Category.IsDescribedBy.description {c : Category} {m : MetaCategory}
    (described : c.IsDescribedBy m) : m.description = c.description := by
  obtain ⟨above, all, rfl⟩ := described
  cases c
  rfl

/-- Whether metadata tells the name, handle and description of a category, and the names of the
    categories in it. -/
structure Category.IsShownBy (c : Category) (m : MetaCategory) : Prop where
  name : m.name = c.name
  handle : m.handle = c.handle
  description : m.description = c.description
  children : m.children.map (fun child => child.name) = c.children.map fun child => child.name

theorem Category.IsDescribedBy.isShownBy {c : Category} {m : MetaCategory}
    (described : c.IsDescribedBy m) : c.IsShownBy m where
  name := described.name
  handle := described.handle
  description := described.description
  children := map_eq_map_of_forall₂ (described.children.imp fun _ _ child => child.name)

def Category.IsFirstNamed (c : Category) (name : String) (categories : List Category) : Prop :=
  c.name = name ∧ ∃ before after, categories = before ++ c :: after ∧
    ∀ earlier ∈ before, earlier.name ≠ name

theorem Category.isFirstNamed_of_find? {c : Category} {name : String} {categories : List Category}
    (found : categories.find? (fun d => d.name = name) = some c) :
    c.IsFirstNamed name categories := by
  obtain ⟨isNamed, before, after, split, others⟩ := List.find?_eq_some_iff_append.mp found
  refine ⟨of_decide_eq_true isNamed, before, after, split, fun earlier isEarlier => ?_⟩
  simpa using others earlier isEarlier

/-- Of any layout, and for any name, a lookup finds a category exactly if there is one with the name
    at some depth, and a lookup in the metadata finds one exactly then too. The category is the
    first with the name in the order of declaration, and what is found in the metadata tells about
    this category. -/
theorem lookups_agree (l : Layout) (name : String) :
    ((l.category? name).isSome ↔ ∃ c, l.Contains c ∧ c.name = name) ∧
      (((Metadata.ofLayout l).find? name).isSome ↔ (l.category? name).isSome) ∧
      Option.Rel (fun c m => c.IsShownBy m ∧ c.IsFirstNamed name l.preorder)
        (l.category? name) ((Metadata.ofLayout l).find? name) := by
  have related : Option.Rel (fun c m => c.IsShownBy m ∧ c.IsFirstNamed name l.preorder)
      (l.category? name) ((Metadata.ofLayout l).find? name) := by
    have first : ∀ c, l.category? name = some c → c.IsFirstNamed name l.preorder := by
      intro c found
      rw [Layout.category?_eq] at found
      exact Category.isFirstNamed_of_find? found
    have described := l.category?_described name
    generalize l.category? name = found, (Metadata.ofLayout l).find? name = node at described first
    cases described with
    | none => exact .none
    | @some c m holds => exact .some ⟨holds.2.1.isShownBy, first c rfl⟩
  refine ⟨?_, ?_, related⟩
  · simp only [Layout.category?_eq, List.find?_isSome, Layout.mem_preorder, decide_eq_true_eq]
  · generalize l.category? name = found, (Metadata.ofLayout l).find? name = node at related
    cases related <;> rfl

/-- A layout in which one name occurs at several depths, first inside a category that has a later
    category of the name beside it. -/
def hallLayout : Layout :=
  let named (name handle : String) (children : List Category) : Category :=
    ⟨name, name, handle, some handle, {}, children, []⟩
  { root := "Hall"
    handle := "Hall"
    languagePrefix := none
    propertyPrefix := "Hall"
    categories :=
      [named "frame" "Hall.Frame"
          [named "glass" "Hall.Frame.Glass" [named "frame" "Hall.Frame.Glass.Frame" []],
            named "rim" "Hall.Frame.Rim" []],
        named "glass" "Hall.Glass" [named "edge" "Hall.Glass.Edge" []]]
    onSync := none }

theorem hallLayout_lookups_agree :
    (∃ c m, hallLayout.category? "glass" = some c ∧
      (Metadata.ofLayout hallLayout).find? "glass" = some m ∧ c.IsShownBy m ∧
      m.handle = "Hall.Frame.Glass" ∧ m.children.map (fun child => child.name) = ["frame"] ∧
      c.IsFirstNamed "glass" hallLayout.preorder) ∧
    hallLayout.preorder.map (fun c => c.handle) =
      ["Hall.Frame", "Hall.Frame.Glass", "Hall.Frame.Glass.Frame", "Hall.Frame.Rim", "Hall.Glass",
        "Hall.Glass.Edge"] ∧
    (Metadata.ofLayout hallLayout).find? "door" = none := by
  obtain ⟨-, -, related⟩ := lookups_agree hallLayout "glass"
  refine ⟨?_, by decide, rfl⟩
  obtain ⟨c, found⟩ : ∃ c, hallLayout.category? "glass" = some c := ⟨_, rfl⟩
  obtain ⟨m, isNode⟩ : ∃ m, (Metadata.ofLayout hallLayout).find? "glass" = some m := ⟨_, rfl⟩
  have tells : m.handle = "Hall.Frame.Glass" ∧
      m.children.map (fun child => child.name) = ["frame"] := by
    cases isNode
    exact ⟨rfl, rfl⟩
  rw [found, isNode] at related
  cases related with
  | some holds => exact ⟨c, m, found, isNode, holds.1, tells.1, tells.2, holds.2⟩

end ConfigBinding
