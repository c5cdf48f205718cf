import ConfigBinding.Compile
import Mathlib.Data.List.Forall2

/-!
# The order of markers

Everything that is read off the markers of a declaration is read off those of one kind, so the order
in which a host reports markers of different kinds has no part in what is compiled.

* `SameByKind`: markers in another order, those of each kind in the same order;
* `ClassDecl.Reordered`, `Document.Reordered`: declarations with such markers, at any depth;
* `Document.Reordered.roots`: the roots of both documents;
* `marker_order_across_kinds_is_irrelevant`: what both documents are compiled to.
-/

namespace ConfigBinding

/-! ## Markers by kind -/

inductive Marker.Kind where
  | config
  | exclude
  | requiresRestart
  | range
  | onSync
  | defaultBoolean
  | defaultInt
  | defaultDouble
  | defaultString
  deriving DecidableEq

def Marker.kind : Marker → Marker.Kind
  | .config .. => .config
  | .exclude => .exclude
  | .requiresRestart _ => .requiresRestart
  | .range .. => .range
  | .onSync => .onSync
  | .defaultBoolean _ => .defaultBoolean
  | .defaultInt _ => .defaultInt
  | .defaultDouble _ => .defaultDouble
  | .defaultString _ => .defaultString

def Marker.ofKind (kind : Marker.Kind) (markers : List Marker) : List Marker :=
  markers.filter fun m => m.kind = kind

/-- Whether two lists have the same markers of each kind, in the same order. -/
def SameByKind (markers markers' : List Marker) : Prop :=
  ∀ kind, Marker.ofKind kind markers' = Marker.ofKind kind markers

theorem Marker.findSome?_ofKind {α : Type} {view : Marker → Option α} {kind : Marker.Kind}
    (blind : ∀ m, m.kind ≠ kind → view m = none) (markers : List Marker) :
    (Marker.ofKind kind markers).findSome? view = markers.findSome? view := by
  induction markers with
  | nil => rfl
  | cons m rest inductionHypothesis =>
    by_cases isOfKind : m.kind = kind
    · rw [ofKind, List.filter_cons_of_pos (by simpa using isOfKind), List.findSome?_cons,
        List.findSome?_cons, ← ofKind, inductionHypothesis]
    · rw [ofKind, List.filter_cons_of_neg (by simpa using isOfKind), ← ofKind, inductionHypothesis,
        List.findSome?_cons, blind m isOfKind]

namespace SameByKind

variable {markers markers' : List Marker}

/-- Such lists differ in the order of their markers only. -/
theorem perm (same : SameByKind markers markers') : markers'.Perm markers := by
  rw [List.perm_iff_count]
  intro m
  have found := congrArg (List.count m) (same m.kind)
  rwa [Marker.ofKind, Marker.ofKind, List.count_filter (by simp), List.count_filter (by simp)]
    at found

/-- What is looked for in the markers of one kind is found alike. -/
theorem findSome? {α : Type} (same : SameByKind markers markers') (kind : Marker.Kind)
    {view : Marker → Option α}
    (blind : ∀ m, m.kind ≠ kind → view m = none := by
      intro m other
      cases m <;> first | rfl | exact absurd rfl other) :
    markers'.findSome? view = markers.findSome? view := by
  rw [← Marker.findSome?_ofKind blind, same kind, Marker.findSome?_ofKind blind]

variable {e : Element}

theorem isExcluded (same : SameByKind e.markers markers) :
    ({ e with markers } : Element).isExcluded = e.isExcluded :=
  same.perm.any_eq

theorem isOnSync (same : SameByKind e.markers markers) :
    ({ e with markers } : Element).isOnSync = e.isOnSync :=
  same.perm.any_eq

theorem config? (same : SameByKind e.markers markers) :
    ({ e with markers } : Element).config? = e.config? :=
  same.findSome? .config

theorem restart? (same : SameByKind e.markers markers) :
    ({ e with markers } : Element).restart? = e.restart? :=
  same.findSome? .requiresRestart

theorem range? (same : SameByKind e.markers markers) :
    ({ e with markers } : Element).range? = e.range? :=
  same.findSome? .range

/-- The kinds of defaults are tried in an order of their own, not in that of the markers. -/
theorem explicitDefault? (same : SameByKind e.markers markers) :
    ({ e with markers } : Element).explicitDefault? = e.explicitDefault? := by
  unfold Element.explicitDefault? Element.marker?
  dsimp only
  congr 1
  · exact same.findSome? .defaultBoolean
  funext _
  congr 1
  · exact same.findSome? .defaultInt
  funext _
  congr 1
  · exact same.findSome? .defaultDouble
  funext _
  exact same.findSome? .defaultString

end SameByKind

/-! ## Declarations -/

mutual

/-- Whether two classes differ in the order of markers of different kinds only, their own ones or
    those of anything inside them. -/
inductive ClassDecl.Reordered : ClassDecl → ClassDecl → Prop where
  | intro {c c' : ClassDecl} {markers : List Marker} {members : List ClassMember}
      (own : SameByKind c.markers markers) (inside : ClassMember.AllReordered c.members members)
      (changed : c' = { c with markers, members }) : ClassDecl.Reordered c c'

inductive ClassMember.AllReordered : List ClassMember → List ClassMember → Prop where
  | nil : ClassMember.AllReordered [] []
  | nested {c c' : ClassDecl} {rest rest' : List ClassMember} (head : c.Reordered c')
      (tail : ClassMember.AllReordered rest rest') :
      ClassMember.AllReordered (.nested c :: rest) (.nested c' :: rest')
  | field {f : FieldDecl} {markers : List Marker} {rest rest' : List ClassMember}
      (head : SameByKind f.markers markers) (tail : ClassMember.AllReordered rest rest') :
      ClassMember.AllReordered (.field f :: rest) (.field { f with markers } :: rest')
  | method {m : MethodDecl} {markers : List Marker} {rest rest' : List ClassMember}
      (head : SameByKind m.markers markers) (tail : ClassMember.AllReordered rest rest') :
      ClassMember.AllReordered (.method m :: rest) (.method { m with markers } :: rest')

end

section

variable {markers : List Marker}

theorem SameByKind.surveyField {f : FieldDecl} (same : SameByKind f.markers markers)
    (owner : String) : ({ f with markers } : FieldDecl).survey owner = f.survey owner := by
  simp only [FieldDecl.survey, Element.resolveDefault?, same.restart?, same.range?,
    same.explicitDefault?]
  rfl

theorem SameByKind.isConfigured {f : FieldDecl} (same : SameByKind f.markers markers) :
    ({ f with markers } : FieldDecl).isConfigured = f.isConfigured := by
  rw [FieldDecl.isConfigured, FieldDecl.isConfigured, same.isExcluded]

end

mutual

/-- By induction on both classes at once: what a class is surveyed to follows from its markers, one
    kind at a time, and from what its members are surveyed to. -/
theorem ClassDecl.Reordered.surveyCategory {c c' : ClassDecl} (reordered : c.Reordered c')
    (parent : Option String) (parentHandle : String) :
    c'.surveyCategory parent parentHandle = c.surveyCategory parent parentHandle := by
  cases reordered with
  | intro own inside changed =>
    subst changed
    cases c
    simp only [ClassDecl.surveyCategory, ClassDecl.isCategory, own.isExcluded, own.restart?,
      inside.surveyContents]
    rfl

theorem ClassMember.AllReordered.surveyContents {members members' : List ClassMember}
    (reordered : ClassMember.AllReordered members members') (name handle : String) :
    ClassMember.surveyContents name handle members' =
      ClassMember.surveyContents name handle members := by
  cases reordered with
  | nil => rfl
  | nested head tail =>
    simp only [ClassMember.surveyContents, head.surveyCategory, tail.surveyContents]
  | field head tail =>
    simp only [ClassMember.surveyContents, head.isConfigured, head.surveyField,
      tail.surveyContents]
  | method head tail => exact tail.surveyContents name handle

end

/-! ## Roots -/

/-- Whether members become the same, but for the markers of methods, which no layout keeps. -/
structure RootContents.Agree (contents contents' : RootContents) : Prop where
  categories : contents'.categories = contents.categories
  hooks : List.Forall₂ (fun m m' => m.name = m'.name ∧ m.callable = m'.callable) contents.hooks
    contents'.hooks
  diagnostics : contents'.diagnostics = contents.diagnostics

theorem RootContents.Agree.cons {root : String} {member member' : ClassMember}
    {rest rest' : List ClassMember}
    (head : (member.surveyRoot root).Agree (member'.surveyRoot root))
    (tail : (RootContents.ofMembers root rest).Agree (RootContents.ofMembers root rest')) :
    (RootContents.ofMembers root (member :: rest)).Agree
      (RootContents.ofMembers root (member' :: rest')) where
  categories := congrArg₂ (· ++ ·) head.categories tail.categories
  hooks := List.rel_append head.hooks tail.hooks
  diagnostics := congrArg₂ (· ++ ·) head.diagnostics tail.diagnostics

theorem ClassMember.AllReordered.ofMembers {members members' : List ClassMember}
    (reordered : ClassMember.AllReordered members members') (root : String) :
    (RootContents.ofMembers root members).Agree (RootContents.ofMembers root members') := by
  cases reordered with
  | nil => exact ⟨rfl, .nil, rfl⟩
  | nested head tail =>
    refine .cons ?_ (tail.ofMembers root)
    rw [ClassMember.surveyRoot, ClassMember.surveyRoot, head.surveyCategory]
    exact ⟨rfl, .nil, rfl⟩
  | field head tail =>
    refine .cons ?_ (tail.ofMembers root)
    rw [ClassMember.surveyRoot, ClassMember.surveyRoot, head.isConfigured]
    split <;> exact ⟨rfl, .nil, rfl⟩
  | method head tail =>
    refine .cons ?_ (tail.ofMembers root)
    rw [ClassMember.surveyRoot, ClassMember.surveyRoot, head.isOnSync]
    split
    next => exact ⟨rfl, (.cons ⟨rfl, rfl⟩ .nil), rfl⟩
    next => exact ⟨rfl, .nil, rfl⟩

theorem ClassDecl.Reordered.survey {root root' : ClassDecl} (reordered : root.Reordered root') :
    root'.survey = root.survey := by
  cases reordered with
  | @intro _ _ markers members own inside changed =>
    subst changed
    obtain ⟨categories, hooks, diagnostics⟩ := inside.ofMembers root.name
    unfold ClassDecl.survey
    dsimp only
    split
    next => rfl
    next =>
      rw [categories, diagnostics, own.config?]
      have names : (RootContents.ofMembers root.name root.members).hooks.map (fun m => m.name) =
          (RootContents.ofMembers root.name members).hooks.map (fun m => m.name) := by
        rw [← List.forall₂_eq_eq_eq, List.forall₂_map_left_iff, List.forall₂_map_right_iff]
        exact hooks.imp fun _ _ same => same.1
      generalize (RootContents.ofMembers root.name root.members).hooks = found at hooks names
      generalize (RootContents.ofMembers root.name members).hooks = found' at hooks names
      cases hooks with
      | nil => rfl
      | cons first others =>
        cases others with
        | nil =>
          obtain ⟨name, callable⟩ := first
          simp only [List.head?_cons, Option.map_some, name, callable]
          rfl
        | cons second others =>
          simp only [names]
          rfl

theorem ClassDecl.Reordered.compile {root root' : ClassDecl} (reordered : root.Reordered root')
    (backends : List Backend) : root'.compile backends = root.compile backends := by
  have survey := reordered.survey
  cases reordered with
  | intro own inside changed =>
    subst changed
    unfold ClassDecl.compile
    rw [survey]
    rfl

/-! ## Documents -/

def Document.Reordered (document document' : Document) : Prop :=
  List.Forall₂ ClassDecl.Reordered document.declarations document'.declarations

theorem Document.Reordered.roots {document document' : Document}
    (reordered : document.Reordered document') :
    List.Forall₂ ClassDecl.Reordered document.roots document'.roots := by
  refine List.rel_filter ?_ reordered
  intro c c' reordered
  cases reordered with
  | intro own inside changed =>
    subst changed
    simp only [own.config?]

/-- The order in which markers of different kinds are declared, anywhere in a document, changes
    neither which declarations are roots nor anything that the roots are compiled to. -/
theorem marker_order_across_kinds_is_irrelevant {document document' : Document}
    (reordered : document.Reordered document') :
    List.Forall₂ ClassDecl.Reordered document.roots document'.roots ∧
      ∀ backends, document'.compile backends = document.compile backends := by
  have roots := reordered.roots
  refine ⟨roots, fun backends => ?_⟩
  rw [Document.compile, Document.compile, ← List.forall₂_eq_eq_eq, List.forall₂_map_left_iff,
    List.forall₂_map_right_iff]
  exact roots.flip.imp fun _ _ reordered => reordered.compile backends

/-- A document with markers on its root, on a class and a field inside and on a method. -/
def lanternDocument (ofRoot ofClass ofField ofMethod : List Marker) : Document where
  declarations :=
    [{ ClassDecl.named "Lantern" with
        markers := ofRoot
        members :=
          [.nested
              { ClassDecl.named "Wick" with
                markers := ofClass
                members :=
                  [.field
                      { FieldDecl.named "length" (.primitive "double") with markers := ofField }] },
            .method { MethodDecl.named "relight" with markers := ofMethod }] }]

/-- Two defaults of different kinds and two restarts of one kind, in two orders. -/
theorem lanternDocument_marker_order_is_irrelevant :
    let document := lanternDocument [.config "lamp." "", .requiresRestart { world := true }]
      [.range (.ofInt 0) (.ofInt 1), .requiresRestart { mc := true }]
      [.requiresRestart { world := true }, .defaultString (.one "long"), .requiresRestart {},
        .defaultInt (.one 2)]
      [.onSync, .range (.ofInt 0) (.ofInt 1)]
    let document' := lanternDocument [.requiresRestart { world := true }, .config "lamp." ""]
      [.requiresRestart { mc := true }, .range (.ofInt 0) (.ofInt 1)]
      [.defaultInt (.one 2), .requiresRestart { world := true }, .requiresRestart {},
        .defaultString (.one "long")]
      [.range (.ofInt 0) (.ofInt 1), .onSync]
    document.Reordered document' ∧
      (∀ backends, document'.compile backends = document.compile backends) ∧
      (document'.compile Backend.all).map (fun c => (c.root, c.isFatal, c.diagnostics)) =
        [("Lantern", false,
          [.error .defaultShape "Lantern.Wick.length"
            "Unexpected default of type int, wanted double" ["using double"]])] := by
  intro document document'
  have ofField : SameByKind
      [.requiresRestart { world := true }, .defaultString (.one "long"), .requiresRestart {},
        .defaultInt (.one 2)]
      [.defaultInt (.one 2), .requiresRestart { world := true }, .requiresRestart {},
        .defaultString (.one "long")] := by
    intro kind
    cases kind <;> rfl
  have reordered : document.Reordered document' := by
    refine .cons (.intro ?_ ?_ rfl) .nil
    · intro kind
      cases kind <;> rfl
    · refine .nested (.intro ?_ (.field ofField .nil) rfl) (.method ?_ .nil) <;>
        (intro kind; cases kind <;> rfl)
  obtain ⟨-, compiled⟩ := marker_order_across_kinds_is_irrelevant reordered
  exact ⟨reordered, compiled, by decide +kernel⟩

end ConfigBinding
