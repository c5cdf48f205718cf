import ConfigBinding.Compile
import Mathlib.Tactic.Common

/-!
# Skipped declarations

What a survey skips, with everything below it, has no part in its result: neither in the layout nor
in what is reported, and so in no binding. Skipped are member classes that do not become categories,
member fields that are not configured, the methods of member classes, and those methods of the root
that are not called after a sync.

* `ClassDecl.prunedRoot`: a root without anything that is skipped;
* `ClassDecl.survey_prunedRoot`: its survey;
* `skipped_declarations_leave_no_trace`: roots that differ in nothing else.
-/

namespace ConfigBinding

/-! ## Deleting what is skipped -/

mutual

/-- A member class without what is skipped below it, at any depth. -/
def ClassDecl.pruned : ClassDecl → ClassDecl
  | c@{ members, .. } => { c with members := ClassMember.prunedAll members }

def ClassMember.prunedAll : List ClassMember → List ClassMember
  | [] => []
  | .nested c :: rest =>
    if c.isCategory then .nested c.pruned :: ClassMember.prunedAll rest
    else ClassMember.prunedAll rest
  | .field f :: rest =>
    if f.isConfigured then .field f :: ClassMember.prunedAll rest else ClassMember.prunedAll rest
  | .method _ :: rest => ClassMember.prunedAll rest

end

def ClassMember.prunedInRoot? : ClassMember → Option ClassMember
  | .nested c => if c.isCategory then some (.nested c.pruned) else none
  | .field f => if f.isConfigured then some (.field f) else none
  | .method m => if m.isOnSync then some (.method m) else none

def ClassDecl.prunedRoot (root : ClassDecl) : ClassDecl :=
  { root with members := root.members.filterMap ClassMember.prunedInRoot? }

/-! ## Member classes -/

mutual

/-- A class is judged by itself, and its members are surveyed as if the skipped ones were gone. -/
theorem ClassDecl.surveyCategory_pruned (parent : Option String) (parentHandle : String) :
    (c : ClassDecl) → c.pruned.surveyCategory parent parentHandle =
      c.surveyCategory parent parentHandle
  | ⟨_, _, _, _, members⟩ => by
    simp only [ClassDecl.pruned, ClassDecl.surveyCategory, ClassDecl.isCategory,
      ClassMember.surveyContents_prunedAll _ _ members]

theorem ClassMember.surveyContents_prunedAll (name handle : String) :
    (members : List ClassMember) →
      ClassMember.surveyContents name handle (ClassMember.prunedAll members) =
        ClassMember.surveyContents name handle members
  | [] => rfl
  | .nested c :: rest => by
    have others := ClassMember.surveyContents_prunedAll name handle rest
    rw [ClassMember.prunedAll]
    split
    next =>
      simp only [ClassMember.surveyContents, others,
        ClassDecl.surveyCategory_pruned (some name) handle c]
    next isSkipped =>
      have nothing : c.surveyCategory (some name) handle = (none, []) := by
        cases c
        simp [ClassDecl.surveyCategory, isSkipped]
      simp [ClassMember.surveyContents, others, nothing]
  | .field f :: rest => by
    have others := ClassMember.surveyContents_prunedAll name handle rest
    rw [ClassMember.prunedAll]
    split
    next isKept => simp only [ClassMember.surveyContents, isKept, if_true, others]
    next isSkipped => rw [ClassMember.surveyContents, if_neg isSkipped, others]
  | .method _ :: rest => by
    simpa only [ClassMember.prunedAll, ClassMember.surveyContents] using
      ClassMember.surveyContents_prunedAll name handle rest

end

/-! ## Roots -/

theorem ClassMember.surveyRoot_prunedInRoot? (root : String) (member : ClassMember) :
    (member.prunedInRoot?.map (ClassMember.surveyRoot root)).getD ⟨[], [], []⟩ =
      member.surveyRoot root := by
  cases member with
  | nested c =>
    rw [ClassMember.prunedInRoot?]
    split
    next => simp [ClassMember.surveyRoot, ClassDecl.surveyCategory_pruned]
    next isSkipped =>
      cases c
      simp [ClassMember.surveyRoot, ClassDecl.surveyCategory, isSkipped]
  | field f =>
    rw [ClassMember.prunedInRoot?]
    split
    next => rfl
    next isSkipped => simp [ClassMember.surveyRoot, isSkipped]
  | method m =>
    rw [ClassMember.prunedInRoot?]
    split
    next => rfl
    next isSkipped => simp [ClassMember.surveyRoot, isSkipped]

/-- Each of the three things that members of a root become is collected member by member. -/
theorem RootContents.flatMap_pruned {α : Type} (part : RootContents → List α)
    (nothing : part ⟨[], [], []⟩ = []) (root : String) (members : List ClassMember) :
    ((members.filterMap ClassMember.prunedInRoot?).map (ClassMember.surveyRoot root)).flatMap part =
      (members.map (ClassMember.surveyRoot root)).flatMap part := by
  induction members with
  | nil => rfl
  | cons member rest inductionHypothesis =>
    have first := member.surveyRoot_prunedInRoot? root
    cases left : member.prunedInRoot? with
    | none =>
      rw [left] at first
      rw [List.filterMap_cons_none left, inductionHypothesis, List.map_cons, List.flatMap_cons,
        ← first, Option.map_none, Option.getD_none, nothing, List.nil_append]
    | some pruned =>
      rw [left] at first
      rw [List.filterMap_cons_some left, List.map_cons, List.map_cons, List.flatMap_cons,
        List.flatMap_cons, inductionHypothesis, ← first, Option.map_some, Option.getD_some]

theorem RootContents.ofMembers_pruned (root : String) (members : List ClassMember) :
    RootContents.ofMembers root (members.filterMap ClassMember.prunedInRoot?) =
      RootContents.ofMembers root members := by
  unfold RootContents.ofMembers
  dsimp only
  rw [RootContents.flatMap_pruned _ rfl, RootContents.flatMap_pruned _ rfl,
    RootContents.flatMap_pruned _ rfl]

theorem ClassDecl.survey_prunedRoot (root : ClassDecl) : root.prunedRoot.survey = root.survey := by
  have contents : RootContents.ofMembers root.prunedRoot.name root.prunedRoot.members =
      RootContents.ofMembers root.name root.members :=
    RootContents.ofMembers_pruned root.name root.members
  unfold ClassDecl.survey
  rw [contents]
  rfl

/-- Roots that are equal once all that is skipped is deleted have the same layout or none, the same
    reports in the same order, and the same bindings. -/
theorem skipped_declarations_leave_no_trace {root other : ClassDecl}
    (same : root.prunedRoot = other.prunedRoot) :
    root.survey = other.survey ∧ ∀ backends, root.compile backends = other.compile backends := by
  have surveys : root.survey = other.survey := by
    rw [← root.survey_prunedRoot, same, other.survey_prunedRoot]
  refine ⟨surveys, fun backends => ?_⟩
  have names : root.qualifiedName = other.qualifiedName := by
    change root.prunedRoot.qualifiedName = other.prunedRoot.qualifiedName
    rw [same]
  simp only [ClassDecl.compile, surveys, names]

/-- A root whose skipped members are full of faults: a type that is not valid, names that are
    rendered alike, final classes and methods for syncs that are not the root's. -/
def orchardRoot : ClassDecl :=
  { ClassDecl.named "Orchard" with
    members :=
      [.nested
          { ClassDecl.named "Old" with
            markers := [.exclude]
            members :=
              [.field (FieldDecl.named "grid" (.array (.array (.primitive "int")))),
                .nested { ClassDecl.named "Rows" with modifiers := { isFinal := true } },
                .field (FieldDecl.named "rows" (.other "T"))] },
        .nested
          { ClassDecl.named "Trees" with
            members :=
              [.field (FieldDecl.named "count" (.primitive "int")),
                .field
                  { FieldDecl.named "Count" (.other "T") with
                    modifiers := { isPublic := true, isStatic := true, isFinal := true } },
                .nested { ClassDecl.named "Kind" with kind := .enumeration },
                .method { MethodDecl.named "grow" with markers := [.onSync] }] },
        .field { FieldDecl.named "owner" (.other "T") with markers := [.exclude] },
        .method (MethodDecl.named "harvest"),
        .method { MethodDecl.named "reload" with markers := [.onSync] }] }

def bareOrchardRoot : ClassDecl :=
  { ClassDecl.named "Orchard" with
    members :=
      [.nested
          { ClassDecl.named "Trees" with
            members := [.field (FieldDecl.named "count" (.primitive "int"))] },
        .method { MethodDecl.named "reload" with markers := [.onSync] }] }

theorem orchardRoot_skipped_declarations_leave_no_trace :
    orchardRoot.prunedRoot = bareOrchardRoot.prunedRoot ∧
      orchardRoot.survey = bareOrchardRoot.survey ∧
      orchardRoot.compile Backend.all = bareOrchardRoot.compile Backend.all ∧
      orchardRoot.survey.1.isSome ∧ orchardRoot.survey.2 = [] := by
  have same : orchardRoot.prunedRoot = bareOrchardRoot.prunedRoot := rfl
  obtain ⟨surveys, compiled⟩ := skipped_declarations_leave_no_trace same
  exact ⟨same, surveys, compiled Backend.all, rfl, by rw [surveys]; rfl⟩

end ConfigBinding
