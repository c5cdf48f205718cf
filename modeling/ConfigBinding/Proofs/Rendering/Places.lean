import ConfigBinding.Proofs.Layout.Siblings
import ConfigBinding.Proofs.Text.Names
import ConfigBinding.Rendering.Assignment

/-!
# Places of the host

Siblings are rendered to identifiers of one host structure, so their identifiers have to differ. A
survey warns of different names that are rendered alike, of all names that a category gives to its
host; it says nothing of a child category and a field that have one name.

* `eq_of_surveyNames_eq_nil`: what is known of names that are not warned of;
* `ClassDecl.surveyNames_subset_survey`: the names of every category are looked through;
* `placeOf_injective`: places tell the identifiers on the way to them;
* `Layout.RendersApart`: identifiers of siblings differ, and so do places;
* `rendered_apart_iff`: when this is so of a layout without warnings of this kind.
-/

namespace ConfigBinding

/-! ## Warnings -/

def Diagnostic.IsRenderingWarning (d : Diagnostic) : Prop :=
  d.severity = .warning ∧ "Renders as \x60".toList <+: d.message.toList

instance (d : Diagnostic) : Decidable d.IsRenderingWarning :=
  inferInstanceAs (Decidable (_ ∧ _))

theorem isRenderingWarning_of_mem_surveyNames {owner : String} {seen : List (String × String)}
    {names : List String} {d : Diagnostic} (warned : d ∈ surveyNames owner seen names) :
    d.IsRenderingWarning := by
  induction names generalizing seen with
  | nil => cases warned
  | cons name rest inductionHypothesis =>
    simp only [surveyNames] at warned
    split at warned
    next =>
      split at warned
      next => exact inductionHypothesis warned
      next =>
        obtain rfl | later := List.mem_cons.mp warned
        · refine ⟨rfl, ?_⟩
          simp only [Diagnostic.warning, String.toList_append, List.append_assoc]
          exact List.prefix_append _ _
        · exact inductionHypothesis later
    next => exact inductionHypothesis warned

/-- By induction on the names: each identifier seen before stands for the first name that has it. -/
theorem eq_of_surveyNames_eq_nil {owner : String} {seen : List (String × String)}
    {names : List String} (silent : surveyNames owner seen names = []) :
    (∀ name ∈ names, ∀ first, seen.lookup (Text.identifier name) = some first → first = name) ∧
      names.Pairwise fun name other =>
        Text.identifier name = Text.identifier other → name = other := by
  induction names generalizing seen with
  | nil => exact ⟨nofun, .nil⟩
  | cons name rest inductionHypothesis =>
    simp only [surveyNames] at silent
    split at silent
    next first found =>
      split at silent
      next isFirst =>
        subst isFirst
        obtain ⟨known, pairwise⟩ := inductionHypothesis silent
        refine ⟨?_, .cons ?_ pairwise⟩
        · intro other isName earlier lookup
          obtain rfl | later := List.mem_cons.mp isName
          · exact Option.some.inj (lookup.symm.trans found)
          · exact known other later earlier lookup
        · intro other later same
          exact known other later first (same ▸ found)
      next => cases silent
    next notFound =>
      obtain ⟨known, pairwise⟩ := inductionHypothesis silent
      refine ⟨?_, .cons ?_ pairwise⟩
      · intro other isName earlier lookup
        obtain rfl | later := List.mem_cons.mp isName
        · rw [notFound] at lookup
          cases lookup
        · -- An identifier that was seen before is not the one that was just put in front.
          apply known other later earlier
          rw [List.lookup_cons]
          split
          next same =>
            rw [beq_iff_eq.mp same, notFound] at lookup
            cases lookup
          next => exact lookup
      · intro other later same
        apply known other later name
        rw [← same, List.lookup_cons_self]

/-! ## Where names are looked through -/

theorem ClassMember.subset_surveyContents (name handle : String) {members : List ClassMember}
    {inner : ClassDecl} (isMember : .nested inner ∈ members) :
    (inner.surveyCategory (some name) handle).2 ⊆
      (ClassMember.surveyContents name handle members).diagnostics := by
  induction members with
  | nil => cases isMember
  | cons member rest inductionHypothesis =>
    cases member with
    | nested c =>
      obtain same | later := List.mem_cons.mp isMember
      · cases same
        exact List.subset_append_left _ _
      · exact List.subset_append_of_subset_right _ (inductionHypothesis later)
    | field f =>
      have others := inductionHypothesis (by simpa using isMember)
      rw [ClassMember.surveyContents]
      split
      next => exact List.subset_append_of_subset_right _ others
      next => exact others
    | method m => exact inductionHypothesis (by simpa using isMember)

/-- By induction on the way down to the category, whose report is part of the report about the class
    around it. -/
theorem ClassDecl.surveyNames_subset {c : ClassDecl} {parent : Option String}
    {parentHandle : String} {top category : Category}
    (found : (c.surveyCategory parent parentHandle).1 = some top)
    (contains : top.Contains category) :
    surveyNames category.handle [] category.memberNames ⊆
      (c.surveyCategory parent parentHandle).2 := by
  induction contains generalizing c parent parentHandle with
  | self category =>
    rw [ClassDecl.surveyCategory_eq] at found ⊢
    split at found
    next isKept =>
      cases found
      rw [if_pos isKept]
      exact List.subset_append_right _ _
    next => cases found
  | child isChild _ inductionHypothesis =>
    rw [ClassDecl.surveyCategory_eq] at found ⊢
    split at found
    next isKept =>
      cases found
      rw [if_pos isKept]
      obtain ⟨inner, isMember, becomes⟩ := ClassMember.exists_of_child isChild
      have inContents := List.Subset.trans (inductionHypothesis becomes)
        (ClassMember.subset_surveyContents _ _ isMember)
      apply List.subset_append_of_subset_left
      exact List.subset_append_of_subset_right _ inContents
    next => cases found

section Surveyed

variable {root : ClassDecl} {l : Layout}

theorem ClassDecl.survey_report (surveyed : root.survey.1 = some l) :
    root.survey.2 = (RootContents.ofMembers root.name root.members).diagnostics ++
      surveyNames root.name [] (l.categories.map fun c => c.ident) := by
  unfold ClassDecl.survey at surveyed ⊢
  generalize RootContents.ofMembers root.name root.members = contents at surveyed ⊢
  split at surveyed
  next => cases surveyed
  next isClass =>
    rw [if_neg isClass]
    dsimp only at surveyed ⊢
    split at surveyed
    next => cases surveyed
    next =>
      cases surveyed
      rfl

theorem ClassDecl.surveyNames_subset_survey (surveyed : root.survey.1 = some l) {c : Category}
    (contains : l.Contains c) : surveyNames c.handle [] c.memberNames ⊆ root.survey.2 := by
  obtain ⟨top, isTop, inside⟩ := contains
  obtain ⟨declared, isMember, becomes⟩ := ClassDecl.exists_of_top surveyed isTop
  have inReport := ClassDecl.surveyNames_subset becomes inside
  rw [ClassDecl.survey_report surveyed]
  apply List.subset_append_of_subset_left
  intro d warned
  exact List.mem_flatMap.mpr ⟨_, List.mem_map_of_mem isMember, inReport warned⟩

theorem nodup_identifiers {owner : String} {names : List String} {ds : Diagnostics}
    (reported : surveyNames owner [] names ⊆ ds) (unwarned : ∀ d ∈ ds, ¬ d.IsRenderingWarning)
    (distinct : names.Nodup) : (names.map Text.identifier).Nodup := by
  have silent : surveyNames owner [] names = [] := by
    rw [List.eq_nil_iff_forall_not_mem]
    intro d warned
    exact unwarned d (reported warned) (isRenderingWarning_of_mem_surveyNames warned)
  rw [List.Nodup, List.pairwise_map]
  have both := (eq_of_surveyNames_eq_nil silent).2.and distinct
  exact both.imp fun {name other} related same => related.2 (related.1 same)

end Surveyed

/-! ## Places -/

theorem placeOf_eq (base : String) {path : List String} (nonempty : path ≠ []) :
    placeOf base path = base ++ "." ++ String.intercalate "." (path.map Text.identifier) := by
  have joined : String.join (path.map fun name => "." ++ Text.identifier name) =
      "." ++ String.intercalate "." (path.map Text.identifier) := by
    induction path with
    | nil => exact absurd rfl nonempty
    | cons name rest inductionHypothesis =>
      cases rest with
      | nil => simp
      | cons second others =>
        rw [List.map_cons, String.join_cons, inductionHypothesis (List.cons_ne_nil _ _)]
        simp [String.intercalate_cons_cons, String.append_assoc]
  rw [placeOf, joined, String.append_assoc]

/-- Identifiers hold no points, so they are found again in the place that they lead to. -/
theorem placeOf_injective {base : String} {path other : List String} (nonempty : path ≠ [])
    (otherNonempty : other ≠ []) (same : placeOf base path = placeOf base other) :
    path.map Text.identifier = other.map Text.identifier := by
  have plain : ∀ (names : List String), ∀ name ∈ names.map Text.identifier, '.' ∉ name.toList := by
    intro names name isName
    obtain ⟨declared, -, rfl⟩ := List.mem_map.mp isName
    exact Text.point_not_mem_identifier declared
  rw [placeOf_eq base nonempty, placeOf_eq base otherNonempty, String.append_right_inj] at same
  exact eq_of_intercalate_point (by simpa using nonempty) (plain path)
    (by simpa using otherNonempty) (plain other) same

/-! ## Layouts -/

/-- Whether what is rendered side by side gets different identifiers, so that no field of the host
    is the place of two fields, or of a field and a category. -/
structure Layout.RendersApart (l : Layout) : Prop where
  categories : (l.categories.map fun c => Text.identifier c.ident).Nodup
  members : ∀ c, l.Contains c → (c.memberNames.map Text.identifier).Nodup
  fields : ∀ (base : String) (p q : PlacedField), p.IsIn l → q.IsIn l →
    placeOf base p.target = placeOf base q.target → p = q
  noCategory : ∀ (base : String) (p : PlacedField) (q : PlacedCategory), p.IsIn l → q.IsIn l →
    placeOf base p.target ≠ placeOf base q.path

theorem PlacedCategory.path_ne_nil (q : PlacedCategory) : q.path ≠ [] := by
  simp [PlacedCategory.path, PlacedCategory.trail]

theorem PlacedCategory.identifiers_path (q : PlacedCategory) :
    q.path.map Text.identifier = q.trail.map fun c => Text.identifier c.ident := by
  simp [PlacedCategory.path, Function.comp_def]

theorem Category.nodup_map_memberNames {κ : Type} {c : Category} {key : String → κ} :
    (c.memberNames.map key).Nodup ↔
      (c.children.map fun child => key child.ident).Nodup ∧
        (c.fields.map fun f => key f.name).Nodup ∧
        ∀ child ∈ c.children, ∀ f ∈ c.fields, key child.ident ≠ key f.name := by
  simp only [Category.memberNames, List.map_append, List.map_map, List.nodup_append,
    List.forall_mem_map, Function.comp_def]

section Identifiers

variable {l : Layout} (categories : (l.categories.map fun c => Text.identifier c.ident).Nodup)
  (members : ∀ c, l.Contains c → (c.memberNames.map Text.identifier).Nodup)
include categories members

theorem Layout.tellsApart_identifier : l.TellsApart fun c => Text.identifier c.ident where
  top := categories
  inner c contains := (Category.nodup_map_memberNames.mp (members c contains)).1

theorem Layout.field_eq_of_place {base : String} {p q : PlacedField} (isIn : p.IsIn l)
    (otherIsIn : q.IsIn l) (same : placeOf base p.target = placeOf base q.target) : p = q := by
  have apart := Layout.tellsApart_identifier categories members
  have identifiers := placeOf_injective p.target_ne_nil q.target_ne_nil same
  simp only [PlacedField.target, List.map_append, List.map_singleton,
    PlacedCategory.identifiers_path] at identifiers
  obtain ⟨-, distinct, -⟩ :=
    Category.nodup_map_memberNames.mp (members p.site.category isIn.1.contains)
  exact Layout.field_eq_of_keys (fun _ _ => Layout.placed_eq_of_keys apart) isIn otherIsIn distinct
    identifiers

theorem Layout.place_ne_of_category {base : String} {p : PlacedField} {q : PlacedCategory}
    (isIn : p.IsIn l) (otherIsIn : q.IsIn l) : placeOf base p.target ≠ placeOf base q.path := by
  intro same
  have apart := Layout.tellsApart_identifier categories members
  have identifiers := placeOf_injective p.target_ne_nil q.path_ne_nil same
  simp only [PlacedField.target, List.map_append, List.map_singleton,
    PlacedCategory.identifiers_path] at identifiers
  obtain ⟨isChild, sameName⟩ := Layout.isChild_of_keys
    (fun _ _ => Layout.placed_eq_of_keys apart) isIn.1 otherIsIn identifiers.symm
  obtain ⟨-, -, unlike⟩ :=
    Category.nodup_map_memberNames.mp (members p.site.category isIn.1.contains)
  exact unlike q.category isChild p.field (List.mem_of_getElem? isIn.2) sameName

end Identifiers

/-- Where members that are kept of a class differ in name, of classes and of fields for themselves,
    and no name is warned of, all that is rendered side by side differs, exactly if no category has
    a child category and a field of one name. The names of the top categories always differ. -/
theorem rendered_apart_iff {root : ClassDecl} {l : Layout} (surveyed : root.survey.1 = some l)
    (distinct : root.HasDistinctMembers) (unwarned : ∀ d ∈ root.survey.2, ¬ d.IsRenderingWarning) :
    (l.categories.map fun c => Text.identifier c.ident).Nodup ∧
      (l.RendersApart ↔
        ∀ c, l.Contains c → ∀ child ∈ c.children, ∀ f ∈ c.fields, child.ident ≠ f.name) := by
  have names := Layout.tellsApart_ident surveyed distinct
  have categories : (l.categories.map fun c => Text.identifier c.ident).Nodup := by
    have reported :
        surveyNames root.name [] (l.categories.map fun c => c.ident) ⊆ root.survey.2 := by
      rw [ClassDecl.survey_report surveyed]
      exact List.subset_append_right _ _
    simpa [Function.comp_def] using nodup_identifiers reported unwarned names.top
  refine ⟨categories, ?_, ?_⟩
  · intro apart c contains child isChild f isField same
    obtain ⟨-, -, rendered⟩ := Category.nodup_map_memberNames.mp (apart.members c contains)
    exact rendered child isChild f isField (congrArg Text.identifier same)
  · intro unlike
    have members : ∀ c, l.Contains c → (c.memberNames.map Text.identifier).Nodup := by
      intro c contains
      apply nodup_identifiers (ClassDecl.surveyNames_subset_survey surveyed contains) unwarned
      rw [← List.map_id c.memberNames, Category.nodup_map_memberNames]
      exact ⟨names.inner c contains, Layout.nodup_fieldNames surveyed distinct contains,
        unlike c contains⟩
    exact
      { categories
        members
        fields := fun _ _ _ => Layout.field_eq_of_place categories members
        noCategory := fun _ _ _ => Layout.place_ne_of_category categories members }

/-- A root with names that are nearly alike, one of them a keyword, and with a field of its own that
    is warned of for another reason. -/
def lampRoot : ClassDecl :=
  { ClassDecl.named "Lamp" with
    members :=
      [.field (FieldDecl.named "brand" .string),
        .nested
          { ClassDecl.named "Type" with
            members :=
              [.field (FieldDecl.named "bulbSize" (.primitive "int")),
                .field (FieldDecl.named "bulbsize" (.primitive "int")),
                .nested
                  { ClassDecl.named "Bulb" with
                    members := [.field (FieldDecl.named "size" (.primitive "int"))] }] }] }

def lampLayout : Layout := lampRoot.survey.1.get rfl

theorem lampRoot_rendered_apart :
    lampRoot.survey.1 = some lampLayout ∧ lampRoot.HasDistinctMembers ∧
      lampRoot.survey.2.length = 1 ∧ (∀ d ∈ lampRoot.survey.2, ¬ d.IsRenderingWarning) ∧
      lampLayout.RendersApart ∧
      placeOf "target" ["Type", "bulbSize"] = "target.r#type.bulb_size" := by
  have surveyed : lampRoot.survey.1 = some lampLayout := (Option.some_get _).symm
  have distinct : lampRoot.HasDistinctMembers := by decide +kernel
  have unwarned : ∀ d ∈ lampRoot.survey.2, ¬ d.IsRenderingWarning := by decide +kernel
  have unlike : ∀ c, lampLayout.Contains c →
      ∀ child ∈ c.children, ∀ f ∈ c.fields, child.ident ≠ f.name := by
    rw [Layout.forall_contains_iff]
    decide +kernel
  exact ⟨surveyed, distinct, rfl, unwarned, (rendered_apart_iff surveyed distinct unwarned).2.mpr
    unlike, by decide +kernel⟩

/-- A root whose category has a child category and a field of one name. -/
def tableRoot : ClassDecl :=
  { ClassDecl.named "Table" with
    members :=
      [.nested
          { ClassDecl.named "Board" with
            members :=
              [.nested
                  { ClassDecl.named "edge" with
                    members := [.field (FieldDecl.named "width" (.primitive "int"))] },
                .field (FieldDecl.named "edge" (.primitive "int"))] }] }

def tableLayout : Layout := tableRoot.survey.1.get rfl

/-- Nothing is reported, and yet the place of the field is that of the child category. -/
theorem tableRoot_shares_a_place :
    tableRoot.HasDistinctMembers ∧ tableRoot.survey.1 = some tableLayout ∧
      tableRoot.survey.2 = [] ∧
      (∃ board edge f, tableLayout.categories = [board] ∧ board.children = [edge] ∧
        board.fields = [f] ∧ board.memberNames.map Text.identifier = ["edge", "edge"] ∧
        placeOf "target" [board.ident, f.name] = placeOf "target" [board.ident, edge.ident]) ∧
      ¬ tableLayout.RendersApart := by
  have surveyed : tableRoot.survey.1 = some tableLayout := (Option.some_get _).symm
  refine ⟨by decide +kernel, surveyed, by decide +kernel,
    ⟨_, _, _, rfl, rfl, rfl, by decide +kernel, by decide +kernel⟩, ?_⟩
  intro apart
  have contains : tableLayout.Contains _ := ⟨_, List.mem_cons_self, .self _⟩
  exact absurd (apart.members _ contains) (by decide +kernel)

end ConfigBinding
