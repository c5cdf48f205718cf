import ConfigBinding.Proofs.Layout.Reports

/-!
# Layouts mirror declarations

Survey of a class by its members, and what follows for whole layouts: the categories of a layout are
those of the member classes that become categories, one for each and in their order, and this again
inside each of them; the fields of a category are those of the configured fields of its class.

* `ClassDecl.categoryMembers`, `ClassDecl.configuredMembers`: the members that are kept of a class;
* `ClassDecl.surveyCategory_eq`: the category of a class and the report about it;
* `Element.AsksFor`: the restarts that a declaration asks for itself;
* `Category.Mirrors`, `Field.Mirrors`: what is taken over from a declaration;
* `layout_mirrors_declarations`: every layout of a root.
-/

namespace ConfigBinding

/-! ## Members that are kept -/

def ClassMember.category? : ClassMember → Option ClassDecl
  | .nested c => if c.isCategory then some c else none
  | _ => none

def ClassMember.configuredField? : ClassMember → Option FieldDecl
  | .field f => if f.isConfigured then some f else none
  | _ => none

namespace ClassDecl

def categoryMembers (c : ClassDecl) : List ClassDecl := c.members.filterMap ClassMember.category?

def configuredMembers (c : ClassDecl) : List FieldDecl :=
  c.members.filterMap ClassMember.configuredField?

theorem mem_categoryMembers {c inner : ClassDecl} :
    inner ∈ c.categoryMembers ↔ .nested inner ∈ c.members ∧ inner.isCategory := by
  simp only [categoryMembers, List.mem_filterMap]
  constructor
  · rintro ⟨member, isMember, kept⟩
    cases member with
    | nested d =>
      simp only [ClassMember.category?, Option.ite_none_right_eq_some, Option.some.injEq] at kept
      obtain ⟨isCategory, rfl⟩ := kept
      exact ⟨isMember, isCategory⟩
    | field f => cases kept
    | method m => cases kept
  · rintro ⟨isMember, isCategory⟩
    exact ⟨.nested inner, isMember, by simp [ClassMember.category?, isCategory]⟩

/-- The category of a class inside one with a name and handle, or inside the root. -/
def category (parent : Option String) (parentHandle : String) (c : ClassDecl) : Category where
  name := categoryName parent c.name
  ident := c.name
  handle := parentHandle ++ "." ++ c.name
  description := description? c.doc
  restart := c.restart?.getD {}
  children := c.members.filterMap
    (ClassMember.child? (categoryName parent c.name) (parentHandle ++ "." ++ c.name))
  fields := c.members.filterMap (ClassMember.configured? (parentHandle ++ "." ++ c.name))

end ClassDecl

/-- The names that a category gives to its host: of its children, then of its fields. -/
def Category.memberNames (c : Category) : List String :=
  c.children.map (fun child => child.ident) ++ c.fields.map (fun f => f.name)

/-- The survey of a class, its members taken together. -/
theorem ClassDecl.surveyCategory_eq (c : ClassDecl) (parent : Option String)
    (parentHandle : String) :
    c.surveyCategory parent parentHandle =
      if c.isCategory then
        let made := c.category parent parentHandle
        (some made,
          (c.surveyUse made.handle ++
            if c.modifiers.isFinal then
              [.error .structural made.handle "Unexpected final" []]
            else []) ++
          (ClassMember.surveyContents made.name made.handle c.members).diagnostics ++
          surveyNames made.handle [] made.memberNames)
      else (none, []) := by
  cases isKept : c.isCategory with
  | false =>
    cases c
    simp [ClassDecl.surveyCategory, isKept]
  | true =>
    cases c
    simp only [ClassDecl.surveyCategory, isKept, Bool.not_true, Bool.false_eq_true, if_false,
      if_true, ClassMember.surveyContents_children, ClassMember.surveyContents_fields]
    rfl

theorem ClassMember.child?_nested (name handle : String) (c : ClassDecl) :
    (ClassMember.nested c).child? name handle =
      if c.isCategory then some (c.category (some name) handle) else none := by
  rw [ClassMember.child?, ClassDecl.surveyCategory_eq]
  split <;> rfl

/-! ## What is mirrored -/

/-- The flags of the first restart marker of a declaration, whatever surrounds the declaration. -/
inductive Element.AsksFor (e : Element) : Restart → Prop where
  | nothing (unmarked : ∀ r, .requiresRestart r ∉ e.markers) :
      AsksFor e { world := false, mc := false }
  | first {before after : List Marker} {r : Restart}
      (marked : e.markers = before ++ .requiresRestart r :: after)
      (isFirst : ∀ other, .requiresRestart other ∉ before) : AsksFor e r

structure Field.Mirrors (owner : String) (declared : FieldDecl) (f : Field) : Prop where
  name : f.name = declared.name
  owner : f.owner = owner
  restart : declared.AsksFor f.restart

mutual

/-- Whether a category is the one of a class, in the root with a name and below classes with names,
    and so on for all that is inside it. -/
inductive Category.Mirrors (root : String) : List String → ClassDecl → Category → Prop where
  | intro {above : List String} {declared : ClassDecl} {c : Category}
      (ident : c.ident = declared.name)
      (name : c.name = String.intercalate "." ((above ++ [declared.name]).map Text.lowercase))
      (handle : c.handle = String.intercalate "." (root :: (above ++ [declared.name])))
      (restart : declared.AsksFor c.restart)
      (children : Category.AllMirror root (above ++ [declared.name]) declared.categoryMembers
        c.children)
      (fields : List.Forall₂ (Field.Mirrors c.handle) declared.configuredMembers c.fields) :
      Category.Mirrors root above declared c

inductive Category.AllMirror (root : String) :
    List String → List ClassDecl → List Category → Prop where
  | nil {above : List String} : Category.AllMirror root above [] []
  | cons {above : List String} {declared : ClassDecl} {c : Category}
      {others : List ClassDecl} {rest : List Category}
      (head : Category.Mirrors root above declared c)
      (tail : Category.AllMirror root above others rest) :
      Category.AllMirror root above (declared :: others) (c :: rest)

end

/-- Lists mirror each other item by item, so none is left out, added or moved. -/
theorem Category.allMirror_iff {root : String} {above : List String} {declared : List ClassDecl}
    {categories : List Category} :
    Category.AllMirror root above declared categories ↔
      List.Forall₂ (Category.Mirrors root above) declared categories := by
  induction declared generalizing categories with
  | nil =>
    rw [List.forall₂_nil_left_iff]
    constructor
    · rintro ⟨⟩
      rfl
    · rintro rfl
      exact .nil
  | cons first others inductionHypothesis =>
    rw [List.forall₂_cons_left_iff]
    constructor
    · rintro (_ | ⟨head, tail⟩)
      exact ⟨_, _, head, inductionHypothesis.mp tail, rfl⟩
    · rintro ⟨c, rest, head, tail, rfl⟩
      exact .cons head (inductionHypothesis.mpr tail)

/-! ## Fields -/

theorem Element.asksFor_restart (e : Element) : e.AsksFor (e.restart?.getD {}) := by
  cases found : e.restart? with
  | none =>
    refine .nothing fun r isMarker => ?_
    have notSeen := List.findSome?_eq_none_iff.mp found _ isMarker
    cases notSeen
  | some r =>
    obtain ⟨before, marker, after, split, isFound, notBefore⟩ := List.findSome?_eq_some_iff.mp found
    have isRestart : marker = .requiresRestart r := by
      cases marker <;> cases isFound
      rfl
    subst isRestart
    refine .first split fun other isMarker => ?_
    have notSeen := notBefore _ isMarker
    cases notSeen

theorem FieldDecl.survey_mirrors (owner : String) (declared : FieldDecl) :
    Field.Mirrors owner declared (declared.survey owner).1 := by
  have restart := declared.toElement.asksFor_restart
  unfold FieldDecl.survey
  dsimp only
  split
  next => exact ⟨rfl, rfl, restart⟩
  next =>
    split
    next => exact ⟨rfl, rfl, restart⟩
    next => exact ⟨rfl, rfl, restart⟩

theorem ClassDecl.fields_mirror (members : List ClassMember) (handle : String) :
    List.Forall₂ (Field.Mirrors handle) (members.filterMap ClassMember.configuredField?)
      (members.filterMap (ClassMember.configured? handle)) := by
  apply forall₂_filterMap
  intro member _
  cases member with
  | nested c => exact .none
  | method m => exact .none
  | field f =>
    simp only [ClassMember.configuredField?, ClassMember.configured?]
    split
    next => exact .some (f.survey_mirrors handle)
    next => exact .none

/-! ## Categories -/

/-- The name of the category around those that lie below classes with some names. -/
def enclosingName? : List String → Option String
  | [] => none
  | above => some (String.intercalate "." (above.map Text.lowercase))

theorem enclosingName?_append (above : List String) (name : String) :
    enclosingName? (above ++ [name]) = some (categoryName (enclosingName? above) name) := by
  cases above with
  | nil =>
    simp only [List.nil_append, enclosingName?, List.map_cons, List.map_nil, categoryName,
      String.intercalate_singleton]
  | cons outer above =>
    have inside : (outer :: above).map Text.lowercase ≠ [] := List.cons_ne_nil _ _
    have split := intercalate_append_name inside (Text.lowercase name)
    simp only [List.cons_append, enclosingName?, categoryName]
    rw [← List.cons_append, List.map_append, List.map_singleton, split]

theorem categoryName_enclosing (above : List String) (name : String) :
    categoryName (enclosingName? above) name =
      String.intercalate "." ((above ++ [name]).map Text.lowercase) := by
  have joined := enclosingName?_append above name
  cases above <;> exact (Option.some.inj joined).symm

/-- By induction on the class: it hands its own path on to the classes nested in it. -/
theorem ClassDecl.category_mirrors (root : String) (declared : ClassDecl) (above : List String) :
    Category.Mirrors root above declared
      (declared.category (enclosingName? above) (String.intercalate "." (root :: above))) := by
  induction declared using ClassDecl.induction generalizing above with
  | step declared inductionHypothesis =>
    have handle := intercalate_append_name (List.cons_ne_nil root above) declared.name
    have name := enclosingName?_append above declared.name
    refine .intro rfl (categoryName_enclosing above declared.name) handle.symm
      declared.asksFor_restart ?children (fields_mirror declared.members _)
    case children =>
      rw [Category.allMirror_iff]
      apply forall₂_filterMap
      intro member isMember
      cases member with
      | field f => exact .none
      | method m => exact .none
      | nested inner =>
        rw [ClassMember.child?_nested, ClassMember.category?]
        split
        next =>
          have mirrors := inductionHypothesis inner isMember (above ++ [declared.name])
          rw [name, ← List.cons_append, handle] at mirrors
          exact .some mirrors
        next => exact .none

/-- The layout of a root mirrors its declarations, at every level one to one and in their order: a
    category has the declared name, the name and handle that its path gives, and the restart flags
    of the first marker of its own; a field keeps its name and belongs to its category. -/
theorem layout_mirrors_declarations {root : ClassDecl} {l : Layout}
    (surveyed : root.survey.1 = some l) :
    List.Forall₂ (Category.Mirrors root.name []) root.categoryMembers l.categories := by
  have eachMember : ∀ member : ClassMember,
      (member.surveyRoot root.name).categories =
        (member.category?.map (ClassDecl.category none root.name)).toList := by
    intro member
    cases member with
    | nested c =>
      simp only [ClassMember.surveyRoot, ClassMember.category?, ClassDecl.surveyCategory_eq]
      split <;> rfl
    | field f =>
      simp only [ClassMember.surveyRoot, ClassMember.category?]
      split <;> rfl
    | method m =>
      simp only [ClassMember.surveyRoot, ClassMember.category?]
      split <;> rfl
  have categories :
      l.categories = root.categoryMembers.map (ClassDecl.category none root.name) := by
    simp only [ClassDecl.survey_categories surveyed, eachMember, ClassDecl.categoryMembers,
      ← List.filterMap_eq_flatMap_toList, List.map_filterMap]
  rw [categories, List.forall₂_map_right_iff, List.forall₂_same]
  intro declared _
  have mirrors := declared.category_mirrors root.name []
  rwa [String.intercalate_singleton] at mirrors

/-- A root with classes and fields that are left out between those that are kept, and with several
    restart markers. -/
def harborRoot : ClassDecl :=
  { ClassDecl.named "Harbor" with
    members :=
      [.nested
          { ClassDecl.named "Docks" with
            markers := [.requiresRestart { world := true }]
            members :=
              [.field
                  { FieldDecl.named "berths" (.primitive "int") with
                    markers := [.requiresRestart { mc := true }, .requiresRestart {}] },
                .nested { ClassDecl.named "Crane" with kind := .interface },
                .nested
                  { ClassDecl.named "Sheds" with
                    members :=
                      [.field
                          { FieldDecl.named "LIMIT" (.primitive "int") with
                            modifiers := { isFinal := true } },
                        .field (FieldDecl.named "roofed" (.primitive "boolean"))] }] },
        .nested { ClassDecl.named "Lights" with markers := [.exclude] },
        .nested (ClassDecl.named "Piers")] }

def harborLayout : Layout := harborRoot.survey.1.get rfl

theorem harborRoot_layout_mirrors_declarations :
    harborRoot.survey.1 = some harborLayout ∧
      harborRoot.categoryMembers.map (fun c => c.name) = ["Docks", "Piers"] ∧
      List.Forall₂ (Category.Mirrors "Harbor" []) harborRoot.categoryMembers
        harborLayout.categories ∧
      ∃ docks sheds piers, harborLayout.categories = [docks, piers] ∧ docks.children = [sheds] ∧
        docks.restart = { world := true } ∧
        docks.fields.map (fun f => (f.name, f.restart)) = [("berths", { mc := true })] ∧
        sheds.name = "docks.sheds" ∧ sheds.handle = "Harbor.Docks.Sheds" ∧
        sheds.fields.map (fun f => (f.name, f.owner)) = [("roofed", "Harbor.Docks.Sheds")] := by
  have surveyed : harborRoot.survey.1 = some harborLayout := (Option.some_get _).symm
  refine ⟨surveyed, rfl, layout_mirrors_declarations surveyed, _, _, _, rfl, rfl, rfl, rfl, ?_, rfl,
    rfl⟩
  decide +kernel

end ConfigBinding
