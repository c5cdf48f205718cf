import ConfigBinding.Proofs.Layout.Fields

/-!
# What is reported about a root

The errors that a survey reports are exactly those that the declarations deserve which it keeps:
each stands at its own site, in the order of the declarations, and nothing is reported twice or left
out. A root has no layout only if an error says so.

* `ClassDecl.kept`: the categories, configured fields and on-sync methods of a root, in order;
* `KeptMember.errors`: what is wrong with one of them;
* `ClassDecl.survey_cases`: all that a survey can come to;
* `reports_are_exact`: the errors of a survey.
-/

namespace ConfigBinding

/-! ## What is kept -/

/-- A member that is kept, with the declared names from the root down to it. -/
structure KeptMember where
  path : List String
  member : ClassMember

mutual

/-- What is kept of a class below some names: a category, and what is kept inside it. -/
def ClassDecl.keptBelow (above : List String) : ClassDecl → List KeptMember
  | c@{ members, .. } =>
    if c.isCategory then
      ⟨above ++ [c.name], .nested c⟩ :: ClassMember.keptAllBelow (above ++ [c.name]) members
    else []

def ClassMember.keptAllBelow (above : List String) : List ClassMember → List KeptMember
  | [] => []
  | .nested c :: rest => c.keptBelow above ++ ClassMember.keptAllBelow above rest
  | .field f :: rest =>
    if f.isConfigured then
      ⟨above ++ [f.name], .field f⟩ :: ClassMember.keptAllBelow above rest
    else ClassMember.keptAllBelow above rest
  | .method _ :: rest => ClassMember.keptAllBelow above rest

end

def ClassMember.onSync? : ClassMember → Option MethodDecl
  | .method m => if m.isOnSync then some m else none
  | _ => none

/-- What is kept of a member of the root with a name. Fields of a root are not. -/
def ClassMember.keptInRoot (root : String) (member : ClassMember) : List KeptMember :=
  match member with
  | .nested c => c.keptBelow [root]
  | .field _ => []
  | .method m => if m.isOnSync then [⟨[root, m.name], .method m⟩] else []

namespace ClassDecl

/-- What is kept of a root, in the order of the declarations. -/
def kept (root : ClassDecl) : List KeptMember :=
  root.members.flatMap (ClassMember.keptInRoot root.name)

def onSyncMethods (root : ClassDecl) : List MethodDecl :=
  root.members.filterMap ClassMember.onSync?

end ClassDecl

/-! ## What is wrong with what is kept -/

/-- What generated code needs of a declaration. -/
inductive Rule where
  | isPublic
  | isStatic
  | isNotAbstract
  | isNotFinal

namespace Rule

def message : Rule → String
  | isPublic => "Expected public"
  | isStatic => "Expected static"
  | isNotAbstract => "Unexpected abstract"
  | isNotFinal => "Unexpected final"

def isBrokenBy (m : Modifiers) : Rule → Bool
  | isPublic => !m.isPublic
  | isStatic => !m.isStatic
  | isNotAbstract => m.isAbstract
  | isNotFinal => m.isFinal

def shared : List Rule := [isPublic, isStatic, isNotAbstract]

end Rule

namespace ClassMember

/-- The rules that a member breaks; only classes must not be final. -/
def brokenRules : ClassMember → List Rule
  | .nested c => (Rule.shared ++ [Rule.isNotFinal]).filter (Rule.isBrokenBy c.modifiers)
  | .field f => Rule.shared.filter (Rule.isBrokenBy f.modifiers)
  | .method m => Rule.shared.filter (Rule.isBrokenBy m.modifiers)

def typeError? : ClassMember → Option TypeError
  | .field f =>
    match f.type.resolve.validate with
    | .ok () => none
    | .error e => some e
  | _ => none

end ClassMember

/-- How the default that a declaration gives, in the shape of a type, fails to fit the type. -/
def Element.defaultMismatch? (e : Element) (type : FieldType) : Option DefaultMismatch :=
  match e.explicitDefault? with
  | none => none
  | some raw =>
    if (type.extract raw).conforms type then none
    else some ⟨(type.extract raw).describe, type.representation.text⟩

/-- Only a field of a valid type has its default looked at. -/
def ClassMember.defaultMismatch? (member : ClassMember) : Option DefaultMismatch :=
  match member, member.typeError? with
  | .field f, none => f.toElement.defaultMismatch? f.type.resolve
  | _, _ => none

namespace KeptMember

def site (kept : KeptMember) : String := String.intercalate "." kept.path

/-- The errors of a class that a member deserves, without notes. -/
def errorsAbout (kept : KeptMember) : DiagnosticClass → Diagnostics
  | .structural =>
    kept.member.brokenRules.map fun rule => .error .structural kept.site rule.message []
  | .type => (kept.member.typeError?.map fun e => .error .type kept.site e.message []).toList
  | .defaultShape =>
    (kept.member.defaultMismatch?.map fun m =>
      .error .defaultShape kept.site m.message []).toList
  | .schema => []

def errors (kept : KeptMember) : Diagnostics :=
  kept.errorsAbout .structural ++ kept.errorsAbout .type ++ kept.errorsAbout .defaultShape

def IsWellFormed (kept : KeptMember) : Prop :=
  kept.member.brokenRules = [] ∧ kept.member.typeError? = none ∧
    kept.member.defaultMismatch? = none

end KeptMember

/-! ## Errors without notes -/

namespace Diagnostics

/-- The errors among diagnostics, without their notes. -/
def errors (ds : Diagnostics) : Diagnostics :=
  (ds.filter Diagnostic.isError).map fun d => { d with notes := [] }

@[simp] theorem errors_nil : errors [] = [] := rfl

@[simp] theorem errors_append (ds others : Diagnostics) :
    errors (ds ++ others) = errors ds ++ errors others := by
  simp [errors]

@[simp] theorem errors_cons_error (about : DiagnosticClass) (site message : String)
    (notes : List String) (ds : Diagnostics) :
    errors (.error about site message notes :: ds) = .error about site message [] :: errors ds :=
  rfl

@[simp] theorem errors_cons_warning (about : DiagnosticClass) (site message : String)
    (notes : List String) (ds : Diagnostics) :
    errors (.warning about site message notes :: ds) = errors ds :=
  rfl

theorem errors_flatMap {α : Type} (items : List α) (report : α → Diagnostics) :
    errors (items.flatMap report) = items.flatMap fun item => errors (report item) := by
  induction items with
  | nil => rfl
  | cons item rest inductionHypothesis =>
    rw [List.flatMap_cons, errors_append, inductionHypothesis, List.flatMap_cons]

theorem errors_eq_nil {ds : Diagnostics} : errors ds = [] ↔ ds.hasErrors = false := by
  simp [errors, hasErrors, errorCount]

theorem isFatal_iff {ds : Diagnostics} : ds.isFatal ↔ ∃ d ∈ errors ds, d.about = .schema := by
  simp [isFatal, Diagnostic.isFatal, errors, and_assoc]

end Diagnostics

open Diagnostics (errors)

@[simp] theorem errors_surveyNames (owner : String) (seen : List (String × String))
    (names : List String) : errors (surveyNames owner seen names) = [] := by
  induction names generalizing seen with
  | nil => rfl
  | cons name rest inductionHypothesis =>
    simp only [surveyNames]
    split
    next =>
      split
      next => exact inductionHypothesis seen
      next => exact inductionHypothesis seen
    next => exact inductionHypothesis _

@[simp] theorem FieldType.errors_surveyRange (type : FieldType) (site : String)
    (range : Option (Double × Double)) : errors (type.surveyRange site range).2 = [] := by
  cases range with
  | none => rfl
  | some bounds => cases type <;> rfl

theorem Element.errors_surveyUse (e : Element) (site : String) :
    errors (e.surveyUse site) =
      (Rule.shared.filter (Rule.isBrokenBy e.modifiers)).map fun rule =>
        .error .structural site rule.message [] := by
  obtain ⟨_, ⟨isPublic, isStatic, _, isAbstract⟩, _⟩ := e
  cases isPublic <;> cases isStatic <;> cases isAbstract <;> rfl

/-! ## What is reported about a member -/

theorem Element.mismatch_of_resolveDefault? {e : Element} {type : FieldType}
    {resolved : ResolvedDefault} (found : e.resolveDefault? type = some resolved) :
    resolved.mismatch = e.defaultMismatch? type := by
  simp only [Element.resolveDefault?, Option.map_eq_some_iff] at found
  obtain ⟨zero, -, rfl⟩ := found
  unfold Element.defaultMismatch?
  cases e.explicitDefault? with
  | none => rfl
  | some raw =>
    dsimp only
    split <;> rfl

theorem intercalate_append_name {above : List String} (inside : above ≠ []) (name : String) :
    String.intercalate "." (above ++ [name]) = String.intercalate "." above ++ "." ++ name := by
  rw [String.intercalate_append_of_ne_nil inside (List.cons_ne_nil _ _),
    String.intercalate_singleton]

theorem FieldDecl.errors_survey (f : FieldDecl) {above : List String} (inside : above ≠ []) :
    errors (f.survey (String.intercalate "." above)).2 =
      KeptMember.errors ⟨above ++ [f.name], .field f⟩ := by
  have site := intercalate_append_name inside f.name
  simp only [KeptMember.errors, KeptMember.errorsAbout, KeptMember.site, site,
    ClassMember.brokenRules, ClassMember.defaultMismatch?, ClassMember.typeError?, FieldDecl.survey]
  cases valid : f.type.resolve.validate with
  | error e => simp [Element.errors_surveyUse]
  | ok _ =>
    obtain ⟨resolved, isResolved⟩ :=
      Option.isSome_iff_exists.mp (f.resolveDefault?_of_validate valid)
    have mismatch := Element.mismatch_of_resolveDefault? isResolved
    simp only [isResolved, ← mismatch]
    cases resolved.mismatch <;> simp [Element.errors_surveyUse]

/-! ## What is reported about a class -/

theorem ClassDecl.errors_own (c : ClassDecl) (site : String) :
    errors (c.surveyUse site ++
        if c.modifiers.isFinal then [.error .structural site "Unexpected final" []] else []) =
      (ClassMember.nested c).brokenRules.map fun rule =>
        .error .structural site rule.message [] := by
  rw [ClassMember.brokenRules, List.filter_append, List.map_append, Diagnostics.errors_append,
    Element.errors_surveyUse]
  cases isFinal : c.modifiers.isFinal <;> simp [Rule.isBrokenBy, isFinal, Rule.message]

/-- A class that becomes a category is reported on itself, then its members, then their names. -/
theorem ClassDecl.surveyCategory_report {c : ClassDecl} (isKept : c.isCategory)
    (parent : Option String) (parentHandle : String) :
    ∃ names, (c.surveyCategory parent parentHandle).2 =
      (c.surveyUse (parentHandle ++ "." ++ c.name) ++
        if c.modifiers.isFinal then
          [.error .structural (parentHandle ++ "." ++ c.name) "Unexpected final" []]
        else []) ++
      (ClassMember.surveyContents (categoryName parent c.name) (parentHandle ++ "." ++ c.name)
        c.members).diagnostics ++
      surveyNames (parentHandle ++ "." ++ c.name) [] names := by
  cases c
  simp only [ClassDecl.surveyCategory, isKept, Bool.not_true, Bool.false_eq_true, if_false]
  exact ⟨_, rfl⟩

theorem ClassDecl.keptBelow_eq (c : ClassDecl) (above : List String) :
    c.keptBelow above =
      if c.isCategory then
        ⟨above ++ [c.name], .nested c⟩ :: ClassMember.keptAllBelow (above ++ [c.name]) c.members
      else [] := by
  cases c
  rfl

theorem ClassDecl.errors_surveyCategory_of_contents {c : ClassDecl} (parent : Option String)
    {above : List String} (inside : above ≠ [])
    (contents : ∀ name,
      errors (ClassMember.surveyContents name (String.intercalate "." (above ++ [c.name]))
          c.members).diagnostics =
        (ClassMember.keptAllBelow (above ++ [c.name]) c.members).flatMap KeptMember.errors) :
    errors (c.surveyCategory parent (String.intercalate "." above)).2 =
      (c.keptBelow above).flatMap KeptMember.errors := by
  rw [ClassDecl.keptBelow_eq]
  split
  next isKept =>
    obtain ⟨names, report⟩ := c.surveyCategory_report isKept parent (String.intercalate "." above)
    rw [report, ← intercalate_append_name inside, Diagnostics.errors_append,
      Diagnostics.errors_append, ClassDecl.errors_own, contents, errors_surveyNames,
      List.append_nil, List.flatMap_cons]
    simp [KeptMember.errors, KeptMember.errorsAbout, KeptMember.site, ClassMember.typeError?,
      ClassMember.defaultMismatch?]
  next isSkipped =>
    cases c
    simp [ClassDecl.surveyCategory, isSkipped]

mutual

/-- What is reported about a class is what is wrong with it and with what is kept inside it. -/
theorem ClassDecl.errors_surveyCategory (parent : Option String) {above : List String}
    (inside : above ≠ []) : (c : ClassDecl) →
      errors (c.surveyCategory parent (String.intercalate "." above)).2 =
        (c.keptBelow above).flatMap KeptMember.errors
  | ⟨_, _, _, _, members⟩ =>
    ClassDecl.errors_surveyCategory_of_contents parent inside fun name =>
      ClassMember.errors_surveyContents name (List.append_ne_nil_of_left_ne_nil inside _) members

theorem ClassMember.errors_surveyContents (name : String) {above : List String}
    (inside : above ≠ []) : (members : List ClassMember) →
      errors (ClassMember.surveyContents name (String.intercalate "." above) members).diagnostics =
        (ClassMember.keptAllBelow above members).flatMap KeptMember.errors
  | [] => rfl
  | .nested c :: rest => by
    simp only [ClassMember.surveyContents, ClassMember.keptAllBelow, Diagnostics.errors_append,
      List.flatMap_append, ClassDecl.errors_surveyCategory (some name) inside c,
      ClassMember.errors_surveyContents name inside rest]
  | .field f :: rest => by
    simp only [ClassMember.surveyContents, ClassMember.keptAllBelow]
    split
    next =>
      rw [Diagnostics.errors_append, f.errors_survey inside, List.flatMap_cons,
        ClassMember.errors_surveyContents name inside rest]
    next => exact ClassMember.errors_surveyContents name inside rest
  | .method _ :: rest => ClassMember.errors_surveyContents name inside rest

end

/-! ## What is reported about a root -/

theorem ClassMember.errors_surveyRoot (root : String) (member : ClassMember) :
    errors (member.surveyRoot root).diagnostics =
      (member.keptInRoot root).flatMap KeptMember.errors := by
  cases member with
  | nested c =>
    have reported := c.errors_surveyCategory none (List.cons_ne_nil root [])
    rwa [String.intercalate_singleton] at reported
  | field f =>
    simp only [ClassMember.surveyRoot, ClassMember.keptInRoot]
    split <;> rfl
  | method m =>
    simp only [ClassMember.surveyRoot, ClassMember.keptInRoot]
    split
    next =>
      have site := intercalate_append_name (List.cons_ne_nil root []) m.name
      rw [String.intercalate_singleton] at site
      rw [← site, Element.errors_surveyUse]
      simp [KeptMember.errors, KeptMember.errorsAbout, KeptMember.site, ClassMember.typeError?,
        ClassMember.defaultMismatch?, ClassMember.brokenRules]
    next => rfl

theorem ClassDecl.errors_ofMembers (root : ClassDecl) :
    errors (RootContents.ofMembers root.name root.members).diagnostics =
      root.kept.flatMap KeptMember.errors := by
  simp only [RootContents.ofMembers, ClassDecl.kept, List.flatMap_map, Diagnostics.errors_flatMap,
    List.flatMap_assoc, ClassMember.errors_surveyRoot]

theorem ClassDecl.hooks_ofMembers (root : ClassDecl) :
    (RootContents.ofMembers root.name root.members).hooks = root.onSyncMethods := by
  have each : ∀ member : ClassMember,
      (member.surveyRoot root.name).hooks = member.onSync?.toList := by
    intro member
    cases member with
    | nested c => rfl
    | field f | method m =>
      simp only [ClassMember.surveyRoot, ClassMember.onSync?]
      split <;> rfl
  simp only [RootContents.ofMembers, List.flatMap_map, each, ClassDecl.onSyncMethods,
    List.filterMap_eq_flatMap_toList]

theorem ClassDecl.onSync_of_survey {root : ClassDecl} {l : Layout}
    (surveyed : root.survey.1 = some l) :
    l.onSync = root.onSyncMethods.head?.map fun hook => ⟨hook.name, hook.callable⟩ := by
  rw [← root.hooks_ofMembers]
  unfold ClassDecl.survey at surveyed
  split at surveyed
  next => cases surveyed
  next =>
    dsimp only at surveyed
    split at surveyed
    next => cases surveyed
    next =>
      cases surveyed
      rfl

/-- What a survey comes to: no layout and an error of the schema, for one of two reasons, or a
    layout and just the errors that what is kept deserves. -/
theorem ClassDecl.survey_cases (root : ClassDecl) :
    (root.survey.1 = none ∧ root.survey.2.isFatal ∧
        (root.kind ≠ .standard ∨ 2 ≤ root.onSyncMethods.length)) ∨
      (root.survey.1.isSome ∧ errors root.survey.2 = root.kept.flatMap KeptMember.errors ∧
        root.kind = .standard ∧ root.onSyncMethods.length < 2) := by
  have hooks := root.hooks_ofMembers
  have reported := root.errors_ofMembers
  unfold ClassDecl.survey
  split
  next noClass => exact .inl ⟨rfl, rfl, .inl noClass⟩
  next isClass =>
    -- A layout is given up only after all members were surveyed, if several hooks were found.
    rw [ne_eq, not_not] at isClass
    generalize RootContents.ofMembers root.name root.members = contents at hooks reported ⊢
    dsimp only
    split
    next first second others several =>
      rw [several] at hooks
      refine .inl ⟨rfl, ?_, .inr ?_⟩
      · simp [Diagnostics.isFatal, Diagnostic.isFatal, Diagnostic.isError, Diagnostic.error]
      · simp [← hooks]
    next noneSeveral =>
      refine .inr ⟨rfl, ?_, isClass, ?_⟩
      · rw [Diagnostics.errors_append, errors_surveyNames, List.append_nil, reported]
      · rw [← hooks]
        cases listed : contents.hooks with
        | nil => exact Nat.zero_lt_two
        | cons first rest =>
          cases rest with
          | nil => exact Nat.one_lt_two
          | cons second others => exact absurd listed (noneSeveral first second others)

/-! ## The errors of a survey -/

namespace KeptMember

theorem errors_filter (kept : KeptMember) (about : DiagnosticClass) :
    kept.errors.filter (fun d => d.about == about) = kept.errorsAbout about := by
  cases about <;> cases isType : kept.member.typeError? <;>
    cases isDefault : kept.member.defaultMismatch? <;>
    simp [errors, errorsAbout, isType, isDefault, List.filter_map, Function.comp_def,
      Diagnostic.error]

theorem isWellFormed_iff {kept : KeptMember} : kept.IsWellFormed ↔ kept.errors = [] := by
  simp [IsWellFormed, errors, errorsAbout]

end KeptMember

/-- A root has no layout exactly if an error of the schema is reported, and this exactly if it is
    not a standard class or has several methods to call after a sync. With a layout, the errors are
    in order those that what is kept deserves: of the structure one for each rule that is broken, of
    the type one for each field whose type is not valid, of the default one for each field of a
    valid type whose default does not fit. So there are none exactly if nothing is wrong. -/
theorem reports_are_exact (root : ClassDecl) :
    (root.survey.1 = none ↔ root.survey.2.isFatal) ∧
      (root.survey.1 = none ↔ root.kind ≠ .standard ∨ 2 ≤ root.onSyncMethods.length) ∧
      (root.survey.1.isSome →
        (errors root.survey.2).filter (fun d => d.about == .structural) =
            (root.kept.flatMap fun kept => kept.member.brokenRules.map fun rule =>
              .error .structural kept.site rule.message []) ∧
          (errors root.survey.2).filter (fun d => d.about == .type) =
            (root.kept.filterMap fun kept => kept.member.typeError?.map fun e =>
              .error .type kept.site e.message []) ∧
          (errors root.survey.2).filter (fun d => d.about == .defaultShape) =
            (root.kept.filterMap fun kept => kept.member.defaultMismatch?.map fun m =>
              .error .defaultShape kept.site m.message [])) ∧
      (root.survey.2.hasErrors = false ↔
        root.survey.1.isSome ∧ ∀ kept ∈ root.kept, kept.IsWellFormed) := by
  obtain ⟨noLayout, fatal, reason⟩ | ⟨isLaidOut, exact, isClass, atMostOne⟩ := root.survey_cases
  · -- No layout, so the error that says so is all that matters.
    have reported : errors root.survey.2 ≠ [] := by
      obtain ⟨d, isError, -⟩ := Diagnostics.isFatal_iff.mp fatal
      exact List.ne_nil_of_mem isError
    refine ⟨iff_of_true noLayout fatal, iff_of_true noLayout reason, ?_, ?_⟩
    · simp [noLayout]
    · rw [← Diagnostics.errors_eq_nil]
      exact iff_of_false reported (by simp [noLayout])
  · -- With a layout, each class of errors is picked out of what the kept members deserve.
    have reported : ∀ about, (errors root.survey.2).filter (fun d => d.about == about) =
        root.kept.flatMap fun kept => kept.errorsAbout about := by
      intro about
      rw [exact, List.filter_flatMap]
      simp only [KeptMember.errors_filter]
    have notFatal : ¬ root.survey.2.isFatal := by
      intro fatal
      obtain ⟨d, isError, isSchema⟩ := Diagnostics.isFatal_iff.mp fatal
      have listed : d ∈ (errors root.survey.2).filter (fun d => d.about == .schema) :=
        List.mem_filter.mpr ⟨isError, by simp [isSchema]⟩
      rw [reported] at listed
      simp [KeptMember.errorsAbout] at listed
    have noReason : ¬ (root.kind ≠ .standard ∨ 2 ≤ root.onSyncMethods.length) := by
      rintro (noClass | several)
      · exact noClass isClass
      · exact Nat.not_lt.mpr several atMostOne
    have someLayout : root.survey.1 ≠ none := Option.isSome_iff_ne_none.mp isLaidOut
    refine ⟨iff_of_false someLayout notFatal, iff_of_false someLayout noReason, fun _ => ?_, ?_⟩
    · refine ⟨reported .structural, ?_, ?_⟩ <;> rw [List.filterMap_eq_flatMap_toList]
      · exact reported .type
      · exact reported .defaultShape
    · rw [← Diagnostics.errors_eq_nil, exact, List.flatMap_eq_nil_iff]
      simp only [isLaidOut, true_and, KeptMember.isWellFormed_iff]

/-- A root with faults on three levels, and with a class and a field that are not kept. -/
def tiltedRoot : ClassDecl :=
  { ClassDecl.named "Game" with
    members :=
      [.nested
          { ClassDecl.named "Board" with
            modifiers := { isStatic := true, isFinal := true }
            members :=
              [.field (FieldDecl.named "grid" (.array (.array (.primitive "int")))),
                .nested
                  { ClassDecl.named "Old" with
                    markers := [.exclude]
                    members := [.field (FieldDecl.named "grid" (.other "T"))] },
                .nested
                  { ClassDecl.named "Edge" with
                    members :=
                      [.field
                          { FieldDecl.named "width" (.primitive "int") with
                            markers := [.defaultString (.one "9")] },
                        .field
                          { FieldDecl.named "limit" (.other "T") with
                            modifiers := { isFinal := true } }] }] },
        .method
          { MethodDecl.named "reload" with
            modifiers := { isPublic := true }
            markers := [.onSync] }] }

theorem tiltedRoot_reports_are_exact :
    tiltedRoot.survey.1.isSome ∧
      (errors tiltedRoot.survey.2).filter (fun d => d.about == .structural) =
        [.error .structural "Game.Board" "Expected public" [],
          .error .structural "Game.Board" "Unexpected final" [],
          .error .structural "Game.reload" "Expected static" []] ∧
      (errors tiltedRoot.survey.2).filter (fun d => d.about == .type) =
        [.error .type "Game.Board.grid" "Nested arrays are not allowed" []] ∧
      (errors tiltedRoot.survey.2).filter (fun d => d.about == .defaultShape) =
        [.error .defaultShape "Game.Board.Edge.width"
          "Unexpected default of type String, wanted int" []] := by
  have isLaidOut : tiltedRoot.survey.1.isSome := rfl
  obtain ⟨-, -, reported, -⟩ := reports_are_exact tiltedRoot
  obtain ⟨structural, type, default⟩ := reported isLaidOut
  exact ⟨isLaidOut, structural.trans (by decide +kernel), type.trans (by decide +kernel),
    default.trans (by decide +kernel)⟩

end ConfigBinding
