import ConfigBinding.Proofs.Layout.Mirror

/-!
# Fields in layouts are independent

A field that is declared anew under its name, however different the declaration is, leaves
everything else in a layout and in the reports about it as it was.

* `ClassDecl.Redeclares`: one field is declared anew, at any depth;
* `Layout.Exchanges`: two layouts that differ in one field;
* `ClassDecl.Redeclares.survey`: the reports and the layout of the root around such a field.
-/

namespace ConfigBinding

/-! ## Declaring a field anew -/

/-- Whether two classes differ in one field, in place of which the second one declares another. The
    classes below the first one that lead to the field are listed, the outermost first. -/
inductive ClassDecl.Redeclares (old new : FieldDecl) :
    List ClassDecl → ClassDecl → ClassDecl → Prop where
  | member {c c' : ClassDecl} {before after : List ClassMember}
      (members : c.members = before ++ .field old :: after)
      (changed : c' = { c with members := before ++ .field new :: after }) :
      Redeclares old new [] c c'
  | nested {trail : List ClassDecl} {c c' inner inner' : ClassDecl}
      {before after : List ClassMember}
      (members : c.members = before ++ .nested inner :: after)
      (inside : Redeclares old new trail inner inner')
      (changed : c' = { c with members := before ++ .nested inner' :: after }) :
      Redeclares old new (inner :: trail) c c'

/-- Whether a field that classes below a root lead to belongs to a category. A field of the root
    itself does not, and a class that is skipped hides all that is in it. -/
def leadsToCategory (trail : List ClassDecl) : Bool :=
  !trail.isEmpty && trail.all ClassDecl.isCategory

/-- Whether two categories differ in one field, of the category with a name at a path. -/
inductive Category.Exchanges (f g : Field) (name : String) :
    List String → Category → Category → Prop where
  | own {c c' : Category} {before after : List Field} (isNamed : c.name = name)
      (fields : c.fields = before ++ f :: after)
      (changed : c' = { c with fields := before ++ g :: after }) :
      Exchanges f g name [c.ident] c c'
  | child {path : List String} {c c' inner inner' : Category} {before after : List Category}
      (children : c.children = before ++ inner :: after)
      (inside : Exchanges f g name path inner inner')
      (changed : c' = { c with children := before ++ inner' :: after }) :
      Exchanges f g name (c.ident :: path) c c'

/-- Whether two layouts differ in one field, of the category with a name at a path. -/
inductive Layout.Exchanges (f g : Field) (name : String) (path : List String) :
    Layout → Layout → Prop where
  | intro {l l' : Layout} {c c' : Category} {before after : List Category}
      (categories : l.categories = before ++ c :: after)
      (inside : c.Exchanges f g name path c')
      (changed : l' = { l with categories := before ++ c' :: after }) :
      Exchanges f g name path l l'

namespace ClassDecl.Redeclares

variable {old new : FieldDecl} {trail : List ClassDecl} {c c' : ClassDecl}

/-- Two such classes have all but their members in common. -/
theorem exists_members (redeclared : c.Redeclares old new trail c') :
    ∃ members, c' = { c with members } := by
  cases redeclared with
  | member _ changed | nested _ _ changed => exact ⟨_, changed⟩

theorem isCategory (redeclared : c.Redeclares old new trail c') :
    c'.isCategory = c.isCategory := by
  obtain ⟨_, rfl⟩ := redeclared.exists_members
  rfl

end ClassDecl.Redeclares

/-! ## What is reported about members -/

theorem Element.site_of_mem_surveyUse {e : Element} {site : String} {d : Diagnostic}
    (reported : d ∈ e.surveyUse site) : d.site = site := by
  obtain ⟨_, ⟨isPublic, isStatic, _, isAbstract⟩, _⟩ := e
  cases isPublic <;> cases isStatic <;> cases isAbstract <;>
    simp [Element.surveyUse, Diagnostic.error] at reported <;> grind

theorem FieldType.site_of_mem_surveyRange {type : FieldType} {site : String}
    {range : Option (Double × Double)} {d : Diagnostic}
    (reported : d ∈ (type.surveyRange site range).2) : d.site = site := by
  cases range with
  | none => cases reported
  | some bounds =>
    cases type <;> simp [FieldType.surveyRange, Diagnostic.warning] at reported <;> simp [reported]

/-- Everything that is reported about a field names it. -/
theorem FieldDecl.site_of_mem_survey {f : FieldDecl} {owner : String} {d : Diagnostic}
    (reported : d ∈ (f.survey owner).2) : d.site = owner ++ "." ++ f.name := by
  unfold FieldDecl.survey at reported
  dsimp only at reported
  split at reported
  next e _ =>
    obtain isUse | isType := List.mem_append.mp reported
    · exact Element.site_of_mem_surveyUse isUse
    · cases List.mem_singleton.mp isType
      rfl
  next =>
    split at reported
    next => exact Element.site_of_mem_surveyUse reported
    next resolved _ =>
      obtain earlier | isRange := List.mem_append.mp reported
      · obtain isUse | isMismatch := List.mem_append.mp earlier
        · exact Element.site_of_mem_surveyUse isUse
        · cases found : resolved.mismatch with
          | none => simp [found] at isMismatch
          | some m =>
            simp only [found, List.mem_singleton] at isMismatch
            rw [isMismatch]
            rfl
      · exact FieldType.site_of_mem_surveyRange isRange

def ClassMember.report (name handle : String) : ClassMember → Diagnostics
  | .nested c => (c.surveyCategory (some name) handle).2
  | .field f => if f.isConfigured then (f.survey handle).2 else []
  | .method _ => []

theorem ClassMember.surveyContents_diagnostics (name handle : String) (members : List ClassMember) :
    (ClassMember.surveyContents name handle members).diagnostics =
      members.flatMap (ClassMember.report name handle) := by
  induction members with
  | nil => rfl
  | cons member rest inductionHypothesis =>
    rw [List.flatMap_cons, ← inductionHypothesis]
    cases member with
    | nested c => rfl
    | field f =>
      simp only [ClassMember.surveyContents, ClassMember.report]
      split <;> rfl
    | method m => rfl

/-! ## Categories around a field -/

section

variable {old new : FieldDecl} {trail : List ClassDecl} {c c' : ClassDecl}

theorem Category.Exchanges.ident {f g : Field} {name : String} {path : List String}
    {c c' : Category} (exchanges : c.Exchanges f g name path c') : c'.ident = c.ident := by
  cases exchanges with
  | own _ _ changed | child _ _ changed => rw [changed]

theorem Category.Exchanges.memberNames {f g : Field} {name : String} {path : List String}
    {c c' : Category} (exchanges : c.Exchanges f g name path c') (sameName : g.name = f.name) :
    c'.memberNames = c.memberNames := by
  cases exchanges with
  | own _ fields changed => simp [Category.memberNames, changed, fields, sameName]
  | child children inside changed =>
    simp [Category.memberNames, changed, children, inside.ident]

/-- The category of a class that lies below classes with names, in the root with a name. -/
def ClassDecl.categoryIn (root : String) (above : List String) (c : ClassDecl) : Category :=
  c.category (enclosingName? above) (String.intercalate "." (root :: above))

def ClassDecl.categoryIn? (root : String) (above : List String) (c : ClassDecl) : Option Category :=
  if c.isCategory then some (c.categoryIn root above) else none

section CategoryIn

variable {root : String} {above : List String} {c c' : ClassDecl} {before after : List ClassMember}

theorem ClassDecl.name_categoryIn :
    (c.categoryIn root above).name =
      String.intercalate "." ((above ++ [c.name]).map Text.lowercase) :=
  categoryName_enclosing above c.name

theorem ClassDecl.handle_categoryIn :
    (c.categoryIn root above).handle = String.intercalate "." (root :: (above ++ [c.name])) :=
  (intercalate_append_name (List.cons_ne_nil root above) c.name).symm

/-- The classes in a class have its category around them. -/
theorem ClassDecl.some_name_categoryIn :
    some (c.categoryIn root above).name = enclosingName? (above ++ [c.name]) :=
  (enclosingName?_append above c.name).symm

/-- The category of a nested class goes by the name and handle of the one around it. -/
theorem ClassDecl.child?_categoryIn (inner : ClassDecl) :
    (ClassMember.nested inner).child? (c.categoryIn root above).name
        (c.categoryIn root above).handle = inner.categoryIn? root (above ++ [c.name]) := by
  rw [ClassMember.child?_nested, some_name_categoryIn, handle_categoryIn]
  rfl

/-- A class with another field in the place of one has a category that differs in this field. -/
theorem ClassDecl.categoryIn_of_field {old new : FieldDecl}
    (members : c.members = before ++ .field old :: after)
    (changed : c' = { c with members := before ++ .field new :: after })
    (isKept : old.isConfigured) (staysKept : new.isConfigured) :
    let owner := String.intercalate "." (root :: (above ++ [c.name]))
    ∃ front back, (c.categoryIn root above).fields = front ++ (old.survey owner).1 :: back ∧
      c'.categoryIn root above =
        { c.categoryIn root above with fields := front ++ (new.survey owner).1 :: back } := by
  rw [← handle_categoryIn]
  let made := c.categoryIn root above
  refine ⟨before.filterMap (ClassMember.configured? made.handle),
    after.filterMap (ClassMember.configured? made.handle), ?_, ?_⟩
  · simp [made, categoryIn, category, members, ClassMember.configured?, isKept]
  · simp only [made, categoryIn, category, changed, members, filterMap_around,
      ClassMember.configured?, ClassMember.child?, staysKept, if_true, Option.toList_some,
      List.append_assoc, List.singleton_append]

/-- A class with another class in the place of a nested one has a category that differs in what
    becomes of the nested class. -/
theorem ClassDecl.categoryIn_of_nested {inner inner' : ClassDecl}
    (members : c.members = before ++ .nested inner :: after)
    (changed : c' = { c with members := before ++ .nested inner' :: after }) :
    ∃ front back,
      (c.categoryIn root above).children =
          front ++ (inner.categoryIn? root (above ++ [c.name])).toList ++ back ∧
        c'.categoryIn root above =
          { c.categoryIn root above with
            children :=
              front ++ (inner'.categoryIn? root (above ++ [c.name])).toList ++ back } := by
  let made := c.categoryIn root above
  refine ⟨before.filterMap (ClassMember.child? made.name made.handle),
    after.filterMap (ClassMember.child? made.name made.handle), ?_, ?_⟩
  · rw [← child?_categoryIn, ← filterMap_around, ← members]
    rfl
  · rw [← child?_categoryIn, ← filterMap_around]
    simp only [made, categoryIn, category, changed, members, filterMap_around,
      ClassMember.configured?]

end CategoryIn

/-- By induction on the way down to the field. A class on it that is skipped hides the field. -/
theorem ClassDecl.Redeclares.categoryIn (redeclared : c.Redeclares old new trail c')
    (isKept : old.isConfigured) (staysKept : new.isConfigured) (root : String)
    (above : List String) :
    let path := above ++ c.name :: trail.map fun inner => inner.name
    let owner := String.intercalate "." (root :: path)
    if trail.all ClassDecl.isCategory then
      (c.categoryIn root above).Exchanges (old.survey owner).1 (new.survey owner).1
        (String.intercalate "." (path.map Text.lowercase))
        (c.name :: trail.map fun inner => inner.name) (c'.categoryIn root above)
    else c'.categoryIn root above = c.categoryIn root above := by
  induction redeclared generalizing above with
  | member members changed =>
    obtain ⟨front, back, fields, made'⟩ := categoryIn_of_field members changed isKept staysKept
    rw [List.map_nil, List.all_nil, if_pos rfl]
    exact .own name_categoryIn fields made'
  | @nested trail c c' inner inner' before after members inside changed inductionHypothesis =>
    obtain ⟨front, back, children, made'⟩ := categoryIn_of_nested members changed
    have below := inductionHypothesis (above ++ [c.name])
    rw [List.append_assoc, List.singleton_append] at below
    rw [List.all_cons, List.map_cons]
    cases kept : inner.isCategory with
    | false =>
      have hidden : inner'.categoryIn? root (above ++ [c.name]) =
          inner.categoryIn? root (above ++ [c.name]) := by
        simp [categoryIn?, inside.isCategory, kept]
      rw [hidden, ← children] at made'
      exact made'
    | true =>
      simp only [categoryIn?, inside.isCategory, kept, if_true, Option.toList_some,
        List.append_assoc, List.singleton_append] at children made'
      rw [Bool.true_and]
      split at below
      next all =>
        rw [if_pos all]
        exact .child children below made'
      next notAll =>
        rw [below, ← children] at made'
        rw [if_neg notAll]
        exact made'

/-! ## Reports around a field -/

/-- What is reported about such a class and all that is inside it. -/
def ClassDecl.reportIn (root : String) (above : List String) (c : ClassDecl) : Diagnostics :=
  (c.surveyCategory (enclosingName? above) (String.intercalate "." (root :: above))).2

section ReportIn

variable {root : String} {above : List String} {c : ClassDecl}

theorem ClassDecl.reportIn_of_isCategory (isKept : c.isCategory) :
    let made := c.categoryIn root above
    c.reportIn root above =
      (c.surveyUse made.handle ++
          if c.modifiers.isFinal then [.error .structural made.handle "Unexpected final" []]
          else []) ++
        c.members.flatMap (ClassMember.report made.name made.handle) ++
        surveyNames made.handle [] made.memberNames := by
  intro made
  rw [reportIn, surveyCategory_eq, if_pos isKept, ← ClassMember.surveyContents_diagnostics]
  rfl

theorem ClassDecl.reportIn_of_not_isCategory (isSkipped : c.isCategory = false) :
    c.reportIn root above = [] := by
  rw [reportIn, surveyCategory_eq, isSkipped]
  rfl

theorem ClassDecl.report_categoryIn (inner : ClassDecl) :
    (ClassMember.nested inner).report (c.categoryIn root above).name
        (c.categoryIn root above).handle = inner.reportIn root (above ++ [c.name]) := by
  rw [ClassMember.report, some_name_categoryIn, handle_categoryIn]
  rfl

/-- Classes that differ in one member and in no name are reported on alike around what is reported
    about this member, or not reported on at all. -/
theorem ClassDecl.reportIn_around {c' : ClassDecl} {before after : List ClassMember}
    {member member' : ClassMember} {found found' : Diagnostics}
    (members : c.members = before ++ member :: after)
    (changed : c' = { c with members := before ++ member' :: after })
    (sameNames : (c'.categoryIn root above).memberNames = (c.categoryIn root above).memberNames)
    (same : SameAround found found'
      (member.report (c.categoryIn root above).name (c.categoryIn root above).handle)
      (member'.report (c.categoryIn root above).name (c.categoryIn root above).handle)) :
    ∃ seen seen', SameAround seen seen' (c.reportIn root above) (c'.reportIn root above) ∧
      seen ++ seen' ⊆ found ++ found' := by
  let made := c.categoryIn root above
  have isCategory : c'.isCategory = c.isCategory := by rw [changed]; rfl
  have handle : (c'.categoryIn root above).handle = made.handle := by rw [changed]; rfl
  have name : (c'.categoryIn root above).name = made.name := by rw [changed]; rfl
  cases kept : c.isCategory with
  | false =>
    refine ⟨[], [], ?_, List.nil_subset _⟩
    rw [reportIn_of_not_isCategory kept, reportIn_of_not_isCategory (isCategory.trans kept)]
    exact .nowhere []
  | true =>
    refine ⟨found, found', ?_, List.Subset.refl _⟩
    have around := same.within
      ((c.surveyUse made.handle ++
          if c.modifiers.isFinal then [.error .structural made.handle "Unexpected final" []]
          else []) ++ before.flatMap (ClassMember.report made.name made.handle))
      (after.flatMap (ClassMember.report made.name made.handle) ++
        surveyNames made.handle [] made.memberNames)
    simp only [reportIn_of_isCategory kept, reportIn_of_isCategory (isCategory.trans kept), handle,
      name, sameNames]
    rw [members, changed]
    simpa only [List.flatMap_append, List.flatMap_cons, List.append_assoc] using around

end ReportIn

theorem ClassDecl.Redeclares.memberNames (redeclared : c.Redeclares old new trail c')
    (sameName : new.name = old.name) (isKept : old.isConfigured) (staysKept : new.isConfigured)
    (root : String) (above : List String) :
    (c'.categoryIn root above).memberNames = (c.categoryIn root above).memberNames := by
  have made := redeclared.categoryIn isKept staysKept root above
  split at made
  next =>
    refine made.memberNames ?_
    rw [(FieldDecl.survey_mirrors _ new).name, (FieldDecl.survey_mirrors _ old).name, sameName]
  next => exact congrArg Category.memberNames made

/-- The reports about two classes are the same around what is reported about the field. -/
theorem ClassDecl.Redeclares.reportIn (redeclared : c.Redeclares old new trail c')
    (sameName : new.name = old.name) (isKept : old.isConfigured) (staysKept : new.isConfigured)
    (root : String) (above : List String) :
    ∃ found found', SameAround found found' (c.reportIn root above) (c'.reportIn root above) ∧
      ∀ d ∈ found ++ found', d.site =
        String.intercalate "." (root :: (above ++ c.name :: trail.map fun inner => inner.name)) ++
          "." ++ old.name := by
  have names := redeclared.memberNames sameName isKept staysKept root above
  induction redeclared generalizing above with
  | @member c c' before after members changed =>
    let owner := (c.categoryIn root above).handle
    have reported : SameAround (old.survey owner).2 (new.survey owner).2
        ((ClassMember.field old).report (c.categoryIn root above).name owner)
        ((ClassMember.field new).report (c.categoryIn root above).name owner) := by
      simp only [ClassMember.report, isKept, staysKept, if_true]
      exact .self _ _
    obtain ⟨found, found', same, part⟩ := reportIn_around members changed names reported
    refine ⟨found, found', same, fun d isFound => ?_⟩
    rw [List.map_nil, ← handle_categoryIn]
    obtain isOld | isNew := List.mem_append.mp (part isFound)
    · exact FieldDecl.site_of_mem_survey isOld
    · exact sameName ▸ FieldDecl.site_of_mem_survey isNew
  | @nested trail c c' inner inner' before after members inside changed inductionHypothesis =>
    obtain ⟨found, found', reported, sites⟩ := inductionHypothesis (above ++ [c.name])
      (inside.memberNames sameName isKept staysKept root _)
    rw [← report_categoryIn, ← report_categoryIn] at reported
    obtain ⟨seen, seen', same, part⟩ := reportIn_around members changed names reported
    refine ⟨seen, seen', same, fun d isSeen => ?_⟩
    rw [sites d (part isSeen), List.append_assoc, List.singleton_append, List.map_cons]

/-! ## Roots around a field -/

/-- What members of a root become is put together from what each becomes. -/
theorem RootContents.ofMembers_around (root : String) (before after : List ClassMember)
    (member : ClassMember) :
    RootContents.ofMembers root (before ++ member :: after) =
      let front := RootContents.ofMembers root before
      let own := member.surveyRoot root
      let back := RootContents.ofMembers root after
      ⟨front.categories ++ own.categories ++ back.categories,
        front.hooks ++ own.hooks ++ back.hooks,
        front.diagnostics ++ own.diagnostics ++ back.diagnostics⟩ := by
  simp [RootContents.ofMembers]

/-- Roots that differ in one member, which becomes categories of the same names and the same hooks,
    are reported on alike around this member and have the same layout around its categories. -/
theorem ClassDecl.survey_around {root root' : ClassDecl} {before after : List ClassMember}
    {member member' : ClassMember} {found found' : Diagnostics}
    (members : root.members = before ++ member :: after)
    (changed : root' = { root with members := before ++ member' :: after })
    (hooks : (member'.surveyRoot root.name).hooks = (member.surveyRoot root.name).hooks)
    (idents : (member'.surveyRoot root.name).categories.map Category.ident =
      (member.surveyRoot root.name).categories.map Category.ident)
    (same : SameAround found found' (member.surveyRoot root.name).diagnostics
      (member'.surveyRoot root.name).diagnostics) :
    (∃ seen seen', SameAround seen seen' root.survey.2 root'.survey.2 ∧
        seen ++ seen' ⊆ found ++ found') ∧
      Option.Rel (fun l l' => ∃ front back,
          l.categories = front ++ (member.surveyRoot root.name).categories ++ back ∧
            l' = { l with
              categories := front ++ (member'.surveyRoot root.name).categories ++ back })
        root.survey.1 root'.survey.1 := by
  have around := same.within (RootContents.ofMembers root.name before).diagnostics
    (RootContents.ofMembers root.name after).diagnostics
  subst changed
  unfold ClassDecl.survey
  split
  next noClass => exact ⟨⟨[], [], .nowhere _, List.nil_subset _⟩, .none⟩
  next isClass =>
    simp only [members, RootContents.ofMembers_around, hooks, List.map_append, idents]
    split
    next => exact ⟨⟨found, found', around.within [] _, List.Subset.refl _⟩, .none⟩
    next =>
      exact ⟨⟨found, found', around.within [] _, List.Subset.refl _⟩, .some ⟨_, _, rfl, rfl⟩⟩

theorem ClassDecl.surveyRoot_nested (root : String) (c : ClassDecl) :
    (ClassMember.nested c).surveyRoot root =
      ⟨(c.categoryIn? root []).toList, [], c.reportIn root []⟩ := by
  have survey : c.surveyCategory none root =
      (c.categoryIn? root [], c.reportIn root []) := by
    refine Prod.ext ?_ ?_
    · rw [surveyCategory_eq, categoryIn?, categoryIn, String.intercalate_singleton]
      split <;> rfl
    · rw [reportIn, String.intercalate_singleton]
      rfl
  rw [ClassMember.surveyRoot, survey]

section Survey

variable {root root' : ClassDecl} {before after : List ClassMember}

/-- A field of a root is only warned about, and the warning is the same for every declaration. -/
theorem ClassDecl.survey_of_field (members : root.members = before ++ .field old :: after)
    (changed : root' = { root with members := before ++ .field new :: after })
    (sameName : new.name = old.name) (isKept : old.isConfigured) (staysKept : new.isConfigured) :
    (∃ found found', SameAround found found' root.survey.2 root'.survey.2 ∧
        ∀ d ∈ found ++ found', d.site = root.name ++ "." ++ old.name) ∧
      Option.Rel (fun l l' => l' = l) root.survey.1 root'.survey.1 := by
  let warning := ((ClassMember.field old).surveyRoot root.name).diagnostics
  have surveyRoot : (ClassMember.field new).surveyRoot root.name =
      (ClassMember.field old).surveyRoot root.name := by
    simp only [ClassMember.surveyRoot, isKept, staysKept, sameName]
  have warned : ∀ d ∈ warning, d.site = root.name ++ "." ++ old.name := by
    intro d reported
    simp only [warning, ClassMember.surveyRoot, if_pos isKept] at reported
    rw [List.mem_singleton.mp reported]
    rfl
  have same : SameAround warning warning warning
      ((ClassMember.field new).surveyRoot root.name).diagnostics := by
    rw [surveyRoot]
    exact .self _ _
  obtain ⟨⟨seen, seen', around, part⟩, layouts⟩ :=
    survey_around members changed (by rw [surveyRoot]) (by rw [surveyRoot]) same
  refine ⟨⟨seen, seen', around, fun d isSeen => warned d (by simpa using part isSeen)⟩, ?_⟩
  refine rel_imp layouts ?_
  rintro l l' ⟨front, back, categories, rfl⟩
  rw [surveyRoot, ← categories]

/-- Layouts around what becomes of two member classes that differ in one field. -/
theorem ClassDecl.Redeclares.exchanges (redeclared : c.Redeclares old new trail c')
    (isKept : old.isConfigured) (staysKept : new.isConfigured) {name : String} {l l' : Layout}
    {front back : List Category}
    (categories : l.categories = front ++ (c.categoryIn? name []).toList ++ back)
    (changed : l' = { l with categories := front ++ (c'.categoryIn? name []).toList ++ back }) :
    let path := (c :: trail).map fun inner => inner.name
    let owner := String.intercalate "." (name :: path)
    if leadsToCategory (c :: trail) then
      l.Exchanges (old.survey owner).1 (new.survey owner).1
        (String.intercalate "." (path.map Text.lowercase)) path l'
    else l' = l := by
  have made := redeclared.categoryIn isKept staysKept name []
  have leads : leadsToCategory (c :: trail) = (c.isCategory && trail.all ClassDecl.isCategory) :=
    rfl
  rw [leads]
  cases visible : c.isCategory with
  | false =>
    simp only [categoryIn?, redeclared.isCategory, visible, Bool.false_eq_true, if_false]
      at categories changed
    rw [← categories] at changed
    exact changed
  | true =>
    simp only [categoryIn?, redeclared.isCategory, visible, if_true, Option.toList_some,
      List.append_assoc, List.singleton_append] at categories changed
    rw [Bool.true_and]
    split at made
    next all =>
      rw [if_pos all]
      exact .intro categories made changed
    next notAll =>
      rw [made, ← categories] at changed
      rw [if_neg notAll]
      exact changed

/-- A field inside a member class concerns what becomes of this class. -/
theorem ClassDecl.Redeclares.survey_of_nested (redeclared : c.Redeclares old new trail c')
    (members : root.members = before ++ .nested c :: after)
    (changed : root' = { root with members := before ++ .nested c' :: after })
    (sameName : new.name = old.name) (isKept : old.isConfigured) (staysKept : new.isConfigured) :
    (∃ found found', SameAround found found' root.survey.2 root'.survey.2 ∧
        ∀ d ∈ found ++ found', d.site =
          String.intercalate "." (root.name :: c.name :: trail.map fun inner => inner.name) ++
            "." ++ old.name) ∧
      Option.Rel (fun l l' => ∃ front back,
          l.categories = front ++ (c.categoryIn? root.name []).toList ++ back ∧
            l' = { l with categories := front ++ (c'.categoryIn? root.name []).toList ++ back })
        root.survey.1 root'.survey.1 := by
  obtain ⟨found, found', reported, sites⟩ :=
    redeclared.reportIn sameName isKept staysKept root.name []
  have sameIdent : c'.name = c.name := by
    obtain ⟨_, rfl⟩ := redeclared.exists_members
    rfl
  have idents : ((ClassMember.nested c').surveyRoot root.name).categories.map Category.ident =
      ((ClassMember.nested c).surveyRoot root.name).categories.map Category.ident := by
    simp only [surveyRoot_nested, categoryIn?, redeclared.isCategory]
    split
    · exact congrArg (fun name => [name]) sameIdent
    · rfl
  have same : SameAround found found' ((ClassMember.nested c).surveyRoot root.name).diagnostics
      ((ClassMember.nested c').surveyRoot root.name).diagnostics := by
    simpa only [surveyRoot_nested] using reported
  obtain ⟨⟨seen, seen', around, part⟩, layouts⟩ := survey_around members changed rfl idents same
  simp only [surveyRoot_nested] at layouts
  exact ⟨⟨seen, seen', around, fun d isSeen => sites d (part isSeen)⟩, layouts⟩

end Survey

/-- Whatever a field of a root is declared as, the reports are the same around those about the
    field, and the layout is the same but for the field. -/
theorem ClassDecl.Redeclares.survey {root root' : ClassDecl}
    (redeclared : root.Redeclares old new trail root') (sameName : new.name = old.name)
    (isKept : old.isConfigured) (staysKept : new.isConfigured) :
    let path := trail.map fun c => c.name
    let owner := String.intercalate "." (root.name :: path)
    (∃ found found', SameAround found found' root.survey.2 root'.survey.2 ∧
        ∀ d ∈ found ++ found', d.site = owner ++ "." ++ old.name) ∧
      Option.Rel (fun l l' =>
          if leadsToCategory trail then
            l.Exchanges (old.survey owner).1 (new.survey owner).1
              (String.intercalate "." (path.map Text.lowercase)) path l'
          else l' = l)
        root.survey.1 root'.survey.1 := by
  cases redeclared with
  | member members changed =>
    obtain ⟨reports, layouts⟩ := survey_of_field members changed sameName isKept staysKept
    refine ⟨?_, layouts⟩
    rw [List.map_nil, String.intercalate_singleton]
    exact reports
  | nested members inside changed =>
    obtain ⟨reports, layouts⟩ :=
      inside.survey_of_nested members changed sameName isKept staysKept
    refine ⟨reports, rel_imp layouts ?_⟩
    rintro l l' ⟨front, back, categories, isChanged⟩
    exact inside.exchanges isKept staysKept categories isChanged

end

end ConfigBinding
