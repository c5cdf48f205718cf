import ConfigBinding.Proofs.Lists
import ConfigBinding.Rendering.BindingSource

/-!
# Bindings that share a page

Whatever a binding is made of, each block in its source is closed again, and nothing is closed that
was not opened. So a binding leaves the level of indentation at zero, and what it adds to a page
does not depend on the bindings above it.

* `IsNested`: lines and blocks, one after the other;
* `IsNested.level_write`, `IsNested.lt_level_write`: what they do to the level of a page;
* `Binding.isNested_strokes`: so are the lines of every binding;
* `Page.text_write`: what is on a page stays above what is written;
* `bindings_render_independently`: the source of bindings that share a page.
-/

namespace ConfigBinding

/-! ## Blocks -/

/-- Whether strokes are lines and whole blocks, one after the other. -/
inductive IsNested : List Stroke → Prop where
  | nil : IsNested []
  | line (text : String) : IsNested [.line text]
  | block {inside : List Stroke} (first last : String) (nested : IsNested inside) :
      IsNested (block first inside last)
  | append {strokes more : List Stroke} (nested : IsNested strokes) (moreNested : IsNested more) :
      IsNested (strokes ++ more)

/-- Whether a stroke neither opens nor closes a block. -/
def Stroke.isLine : Stroke → Bool
  | .line _ => true
  | _ => false

namespace IsNested

variable {strokes : List Stroke}

theorem of_lines (lines : strokes.all Stroke.isLine) : IsNested strokes := by
  induction strokes with
  | nil => exact .nil
  | cons s rest inductionHypothesis =>
    rw [List.all_cons, Bool.and_eq_true] at lines
    cases s with
    | line text => exact (line text).append (inductionHypothesis lines.2)
    | opening | closing => exact absurd lines.1 Bool.false_ne_true

theorem flatMap {α : Type} {source : α → List Stroke} (each : ∀ a, IsNested (source a))
    (items : List α) : IsNested (items.flatMap source) := by
  induction items with
  | nil => exact .nil
  | cons a rest inductionHypothesis => exact (each a).append inductionHypothesis

end IsNested

theorem Page.write_append (page : Page) (strokes more : List Stroke) :
    page.write (strokes ++ more) = (page.write strokes).write more := List.foldl_append

theorem Page.write_block (page : Page) (first last : String) (inside : List Stroke) :
    page.write (block first inside last) =
      (((page.stroke (.opening first)).write inside).stroke (.closing last)) := by
  rw [block, Page.write_append]
  rfl

/-- A block that is opened is closed again. -/
theorem IsNested.level_write {strokes : List Stroke} (nested : IsNested strokes) (page : Page) :
    (page.write strokes).level = page.level := by
  induction nested generalizing page with
  | nil => rfl
  | line text => rfl
  | block first last _ inductionHypothesis =>
    have inside := inductionHypothesis (page.stroke (.opening first))
    rw [Page.write_block]
    exact congrArg (· - 1) inside
  | append _ _ inductionHypothesis moreInductionHypothesis =>
    rw [Page.write_append, moreInductionHypothesis, inductionHypothesis]

/-- Where a block is closed, one was opened before. -/
theorem IsNested.lt_level_write {strokes : List Stroke} (nested : IsNested strokes) (page : Page)
    {before after : List Stroke} {text : String}
    (split : strokes = before ++ .closing text :: after) :
    page.level < (page.write before).level := by
  induction nested generalizing page before after with
  | nil => simp at split
  | line own =>
    have isLine : Stroke.closing text ∈ [Stroke.line own] := by simp [split]
    cases List.mem_singleton.mp isLine
  | block first last nested inductionHypothesis =>
    have deeper : (page.stroke (.opening first)).level = page.level + 1 := rfl
    cases before with
    | nil => cases split
    | cons opening begun =>
      obtain ⟨rfl, rest⟩ := List.cons.inj split
      have written : page.write (.opening first :: begun) =
          (page.stroke (.opening first)).write begun := rfl
      rw [written]
      obtain ⟨later, isInside⟩ | ⟨none, rfl, isLast⟩ := split_of_append rest
      · have inner := inductionHypothesis (page.stroke (.opening first)) isInside
        omega
      · cases none with
        | nil =>
          rw [List.append_nil, nested.level_write]
          omega
        | cons s others => simp at isLast
  | @append strokes _ nested _ inductionHypothesis moreInductionHypothesis =>
    obtain ⟨later, isFirst⟩ | ⟨begun, rfl, isSecond⟩ := split_of_append split
    · exact inductionHypothesis page isFirst
    · have second := moreInductionHypothesis (page.write strokes) isSecond
      rwa [nested.level_write, ← Page.write_append] at second

/-! ## The lines of bindings -/

theorem isNested_assignment (base : String) (path : List String) (type : FieldType)
    (expression : String) : IsNested (assignment base path type expression) := by
  unfold assignment
  split
  next => exact (IsNested.of_lines rfl).append (.block _ _ (.line _))
  next => exact .line _
  next => exact .line _

theorem StoreStep.isNested_source (step : StoreStep) : IsNested step.source := by
  cases step with
  | field bound => exact isNested_assignment _ _ _ _
  | category decoration => exact .line _

theorem StoreLoader.isNested_source (loader : StoreLoader) : IsNested loader.source := by
  unfold StoreLoader.source
  extract_lets root hook
  have hooked : IsNested hook := by
    unfold hook
    split
    next => exact .line _
    next => exact .nil
  have saving : IsNested [.line "config.save()?;", .line "Ok(())"] := .of_lines rfl
  have sync :=
    ((IsNested.flatMap StoreStep.isNested_source loader.steps).append hooked).append saving
  exact (IsNested.of_lines rfl).append
    (.block _ _ (((sync.block _ _).append (.line "")).append (.block _ _ (.of_lines rfl))))

theorem PropertyLoader.isNested_source (loader : PropertyLoader) : IsNested loader.source := by
  have fields : IsNested (loader.fields.flatMap PropertyField.source) :=
    .flatMap (fun field => isNested_assignment _ _ _ _) loader.fields
  exact (IsNested.of_lines rfl).append (.block _ _ (.block _ _ (fields.append (.line "Ok(())"))))

theorem Property.isNested_source (p : Property) : IsNested p.source := by
  refine .block _ _ ((IsNested.of_lines rfl).append (.block _ _ ?_))
  exact (isNested_assignment _ _ _ _).append (.line "Ok(())")

theorem isNested_listSource (name : String) {items : List Stroke} (nested : IsNested items) :
    IsNested (listSource name items) := by
  unfold listSource
  split
  next => exact .line _
  next => exact nested.block _ _

mutual

/-- By induction on the tree of categories, whatever its depth. -/
theorem MetaCategory.isNested_source (c : MetaCategory) : IsNested c.source := by
  obtain ⟨name, handle, description, properties, children⟩ := c
  have own :=
    isNested_listSource "properties" (IsNested.flatMap Property.isNested_source properties)
  have inner := isNested_listSource "children" (MetaCategory.isNested_sourceAll children)
  exact .block _ _ (((IsNested.of_lines rfl).append own).append inner)

theorem MetaCategory.isNested_sourceAll (siblings : List MetaCategory) :
    IsNested (MetaCategory.sourceAll siblings) := by
  cases siblings with
  | nil => exact .nil
  | cons c rest =>
    exact (MetaCategory.isNested_source c).append (MetaCategory.isNested_sourceAll rest)

end

theorem Metadata.isNested_source (m : Metadata) : IsNested m.source := by
  have converters : IsNested (m.converters.flatMap Converter.source) :=
    .flatMap (fun _ => .line _) m.converters
  have categories := MetaCategory.isNested_sourceAll m.categories
  exact (IsNested.of_lines rfl).append
    (.block _ _ ((((IsNested.line _).append converters).append (.block _ _ categories)).append
      (.line _)))

theorem Binding.isNested_strokes (b : Binding) : IsNested b.strokes := by
  cases b with
  | store loader => exact (IsNested.line _).append loader.isNested_source
  | property loader => exact (IsNested.line _).append loader.isNested_source
  | metadata tree => exact (IsNested.line _).append tree.isNested_source

/-! ## Text on a page -/

/-- What is written depends on a page only through its level, and comes below what is there. -/
theorem Page.text_write (page : Page) (strokes : List Stroke) :
    (page.write strokes).text = page.text ++ (Page.write ⟨"", page.level⟩ strokes).text := by
  induction strokes generalizing page with
  | nil => exact (String.append_empty).symm
  | cons s rest inductionHypothesis =>
    have first : ∀ other : Page, other.write (s :: rest) = (other.stroke s).write rest :=
      fun _ => rfl
    have added : (page.stroke s).text = page.text ++ (Page.stroke ⟨"", page.level⟩ s).text ∧
        (page.stroke s).level = (Page.stroke ⟨"", page.level⟩ s).level := by
      cases s <;> exact ⟨by simp [Page.stroke], rfl⟩
    rw [first, first, inductionHypothesis, inductionHypothesis (Page.stroke ⟨"", page.level⟩ s),
      added.1, added.2, String.append_assoc]

theorem Binding.source_eq (b : Binding) : b.source = (Page.write {} b.strokes).text := rfl

theorem Binding.source_ne_empty (b : Binding) : b.source ≠ "" := by
  have first : b.strokes = [.line ("// Generated by configgen for \x60" ++ b.root ++
      "\x60. Do not edit.")] ++ b.strokes.tail := rfl
  rw [Binding.source_eq, first, Page.write_append, Page.text_write]
  intro empty
  have noText := (String.append_eq_empty_iff.mp empty).1
  simp [Page.write, Page.stroke, indented] at noText

theorem Page.binding_of_empty {page : Page} (empty : page = {}) (b : Binding) :
    page.binding b = ⟨b.source, 0⟩ := by
  subst empty
  have level := b.isNested_strokes.level_write {}
  exact congrArg (Page.mk b.source) level

theorem Page.binding_of_text {page : Page} (written : page.text ≠ "") (atZero : page.level = 0)
    (b : Binding) : page.binding b = ⟨page.text ++ "\n" ++ b.source, 0⟩ := by
  have separated : page.separate = ⟨page.text ++ "\n", 0⟩ := by
    rw [Page.separate, if_neg written, atZero]
  have level := b.isNested_strokes.level_write ⟨page.text ++ "\n", 0⟩
  have text := Page.text_write ⟨page.text ++ "\n", 0⟩ b.strokes
  rw [Page.binding, separated]
  exact congrArg₂ Page.mk text level

/-- By induction on the bindings below those that are on the page. -/
theorem Page.foldl_binding_of_text {page : Page} (written : page.text ≠ "")
    (atZero : page.level = 0) (bindings : List Binding) :
    bindings.foldl Page.binding page =
      ⟨String.intercalate "\n" (page.text :: bindings.map Binding.source), 0⟩ := by
  induction bindings generalizing page with
  | nil =>
    cases page
    cases atZero
    simp
  | cons b rest inductionHypothesis =>
    have both : page.text ++ "\n" ++ b.source ≠ "" := by simp [written]
    rw [List.foldl_cons, Page.binding_of_text written atZero, inductionHypothesis both rfl,
      String.intercalate_cons_append, List.map_cons, String.intercalate_cons_cons]

theorem foldl_binding (bindings : List Binding) :
    bindings.foldl Page.binding {} =
      ⟨String.intercalate "\n" (bindings.map Binding.source), 0⟩ := by
  cases bindings with
  | nil => rfl
  | cons b rest =>
    have first : (⟨b.source, 0⟩ : Page).text ≠ "" := b.source_ne_empty
    rw [List.foldl_cons, Page.binding_of_empty rfl, Page.foldl_binding_of_text first rfl,
      List.map_cons]

/-- Bindings that share a page read as their sources one below the other, with an empty line
    between them, whatever layouts they are from. Below them the level of indentation is zero again,
    and where the next binding closes a block, the level is not zero. -/
theorem bindings_render_independently (bindings : List Binding) :
    sourceOfAll bindings = String.intercalate "\n" (bindings.map Binding.source) ∧
      (bindings.foldl Page.binding {}).level = 0 ∧
      ∀ (next : Binding) (before after : List Stroke) (text : String),
        next.strokes = before ++ .closing text :: after →
          0 < ((bindings.foldl Page.binding {}).separate.write before).level := by
  refine ⟨?_, ?_, ?_⟩
  · rw [sourceOfAll, foldl_binding]
  · rw [foldl_binding]
  · intro next before after text split
    have closed := next.isNested_strokes.lt_level_write
      (bindings.foldl Page.binding {}).separate split
    omega

end ConfigBinding
