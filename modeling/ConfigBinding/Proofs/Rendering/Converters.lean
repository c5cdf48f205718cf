import ConfigBinding.Proofs.Binding.Converters
import ConfigBinding.Proofs.Decimal.Numerals
import ConfigBinding.Proofs.Rendering.Scopes
import ConfigBinding.Proofs.Text.Names
import ConfigBinding.Rendering.MetadataSource
import Mathlib.Data.List.Nodup

/-!
# Converters of rendered metadata

The source of metadata makes all converters first, in the order of their numbers, and properties
refer to them by the variables that hold them. Setters have variables of their own, which are
forgotten when they end.

* `reference`, `declaration`: the lines that mention the variable of a converter;
* `Unlinked`: lines that refer to no converter, with what they declare;
* `RefersTo`: lines in which every reference stands in the middle of a property, behind no
  declaration but those before the lines;
* `MetaCategory.refersTo_source`: so do the lines of categories;
* `Metadata.boundTo_variable`: the declaration that a variable stands for;
* `converters_are_shared_exactly`: converters and references of the metadata of a layout.
-/

namespace ConfigBinding

open Text (quoted)

def reference (name : String) : Stroke := .line ("converter: Some(Arc::clone(&" ++ name ++ ")),")

def declaration (name : String) (representation target : FieldType) : String :=
  "let " ++ name ++ " = converters.intern(" ++ representation.literal ++ ", " ++ target.literal ++
    ");"

def Property.opening (p : Property) : List Stroke :=
  [.opening "Property \x7b", .line ("name: " ++ quoted p.name ++ ".to_string(),"),
    .line ("description: " ++ optionalLiteral p.description ++ ","),
    .line ("owner: " ++ quoted p.owner ++ ".to_string(),"),
    .line ("representation: " ++ p.representation.literal ++ ","),
    .line ("ty: " ++ p.type.literal ++ ","),
    .line ("default_value: Value::from(" ++ p.default.literal p.type ++ "),")]

def Property.converterLine (p : Property) : Stroke :=
  match p.converter with
  | some c => reference c.variable
  | none => .line "converter: None,"

def Property.setting (p : Property) : List Stroke :=
  let target := p.target.map fun name => quoted name ++ ".to_string()"
  let read :=
    match p.type.component? with
    | some component => "Vec::<" ++ component.itemName ++ ">::from_value(value)?"
    | none => "FromValue::from_value(value)?"
  [.line ("target: vec![" ++ String.intercalate ", " target ++ "],")] ++
    block "setter: Some(Setter::field(target, |config, value| \x7b"
      (assignment "config" p.target p.type read ++ [.line "Ok(())"])
      "\x7d)),"

theorem Property.source_eq (p : Property) :
    p.source = p.opening ++ (p.converterLine :: (p.setting ++ [.closing "\x7d,"])) := by
  obtain ⟨_, _, _, _, _, _, converter, _, _⟩ := p
  cases converter <;> rfl

theorem Property.source_eq_block (p : Property) :
    p.source =
      block "Property \x7b" (p.opening.tail ++ (p.converterLine :: p.setting)) "\x7d," := by
  rw [p.source_eq]
  simp [block, opening]

/-! ## Lines without references -/

/-- What no line starts with unless it takes a converter from a variable. -/
def referenceStart : String := "converter: Some("

theorem startsWith_reference (name : String) : (reference name).StartsWith referenceStart := by
  simp [reference, referenceStart, Stroke.StartsWith]

/-- Whether a stroke is a line that neither declares a variable nor takes a converter from one. -/
def Stroke.IsPlain (s : Stroke) : Prop :=
  (∃ text, s = .line text) ∧ ¬ s.StartsWith "let " ∧ ¬ s.StartsWith referenceStart

theorem isPlain_line {text : String} (own : String) (starts : own.toList <+: text.toList)
    (apart : ∀ start ∈ ["let ", referenceStart],
      ¬ start.toList <+: own.toList ∧ ¬ own.toList <+: start.toList) :
    (Stroke.line text).IsPlain :=
  ⟨⟨text, rfl⟩, Stroke.not_startsWith own starts (apart _ (by simp)),
    Stroke.not_startsWith own starts (apart _ (by simp))⟩

def RefersToNone (strokes : List Stroke) : Prop := ∀ name, reference name ∉ strokes

variable {strokes more : List Stroke} {added later : List String} {properties : List Property}

namespace RefersToNone

theorem append (first : RefersToNone strokes) (second : RefersToNone more) :
    RefersToNone (strokes ++ more) := by
  intro name
  rw [List.mem_append, not_or]
  exact ⟨first name, second name⟩

theorem opening (text : String) : RefersToNone [.opening text] := by
  intro name isLine
  cases List.mem_singleton.mp isLine

theorem closing (text : String) : RefersToNone [.closing text] := by
  intro name isLine
  cases List.mem_singleton.mp isLine

theorem line {text : String} (apart : ¬ (Stroke.line text).StartsWith referenceStart) :
    RefersToNone [.line text] := by
  intro name isLine
  rw [← List.mem_singleton.mp isLine] at apart
  exact apart (startsWith_reference name)

end RefersToNone

/-- Whether lines refer to no converter and leave the blocks that are open as they are, but for
    declarations that they add to the innermost one. -/
structure Unlinked (strokes : List Stroke) (added : List String) : Prop where
  declares : Declares strokes added
  refersToNone : RefersToNone strokes

namespace Unlinked

theorem nil : Unlinked [] [] := ⟨.nil, nofun⟩

theorem append (first : Unlinked strokes added) (second : Unlinked more later) :
    Unlinked (strokes ++ more) (later ++ added) :=
  ⟨first.declares.append second.declares, first.refersToNone.append second.refersToNone⟩

theorem block (body : Unlinked strokes added) (first last : String) :
    Unlinked (block first strokes last) [] :=
  ⟨body.declares.block first last,
    ((RefersToNone.opening first).append body.refersToNone).append (.closing last)⟩

theorem line {text : String} (plain : (Stroke.line text).IsPlain) : Unlinked [.line text] [] :=
  ⟨.line plain.2.1, .line plain.2.2⟩

theorem declaration {text : String} (isLet : (Stroke.line text).StartsWith "let ") :
    Unlinked [.line text] [text] :=
  ⟨.declaration isLet, .line (Stroke.not_startsWith "let " isLet (by decide))⟩

theorem of_plain (plain : ∀ s ∈ strokes, s.IsPlain) : Unlinked strokes [] := by
  induction strokes with
  | nil => exact .nil
  | cons s rest inductionHypothesis =>
    obtain ⟨isPlain, restPlain⟩ := List.forall_mem_cons.mp plain
    obtain ⟨text, rfl⟩ := isPlain.1
    exact (line isPlain).append (inductionHypothesis restPlain)

end Unlinked

/-! ## Properties -/

/-- What the setter of a property declares is of no use outside of it. -/
theorem unlinked_assignment (path : List String) (type : FieldType) (expression : String) :
    ∃ added, Unlinked (assignment "config" path type expression) added := by
  have place : ∀ {text : String}, "config".toList <+: text.toList → Unlinked [.line text] [] :=
    fun starts => .line (isPlain_line "config" starts (by decide))
  unfold assignment
  split
  next =>
    refine ⟨_, ((Unlinked.declaration ?isLet).append (place ?cleared)).append
      (.block (place ?extended) _ _)⟩
    case isLet => simp [Stroke.StartsWith]
    case cleared => simp [placeOf]
    case extended => simp [placeOf]
  next => exact ⟨_, place (by simp [placeOf])⟩
  next => exact ⟨_, place (by simp [placeOf])⟩

theorem Property.isPlain_opening (p : Property) : ∀ s ∈ p.opening.tail, s.IsPlain := by
  simp only [Property.opening, List.tail_cons, List.forall_mem_cons]
  refine ⟨isPlain_line "name: " ?_ (by decide), isPlain_line "description: " ?_ (by decide),
    isPlain_line "owner: " ?_ (by decide), isPlain_line "representation: " ?_ (by decide),
    isPlain_line "ty: " ?_ (by decide), isPlain_line "default_value: " ?_ (by decide),
    List.forall_mem_nil _⟩
  all_goals simp

theorem Property.opens_opening (p : Property) : Opens p.opening 1 :=
  (Opens.opening "Property \x7b").append (Unlinked.of_plain p.isPlain_opening).declares.opens

theorem Property.refersToNone_opening (p : Property) : RefersToNone p.opening :=
  (RefersToNone.opening "Property \x7b").append (Unlinked.of_plain p.isPlain_opening).refersToNone

theorem Property.declares_converterLine (p : Property) : Declares [p.converterLine] [] := by
  unfold Property.converterLine reference
  split
  next => exact .line (Stroke.not_startsWith "converter: " (by simp) (by decide))
  next => exact .line (Stroke.not_startsWith "converter: " (by simp) (by decide))

theorem Property.exists_of_converterLine {p : Property} {name : String}
    (same : p.converterLine = reference name) : ∃ c ∈ p.converter, name = c.variable := by
  unfold Property.converterLine at same
  split at same
  next c isConverter =>
    refine ⟨c, isConverter, ?_⟩
    simpa [reference, eq_comm] using same
  next =>
    have starts := startsWith_reference name
    rw [← same] at starts
    exact absurd starts (Stroke.not_startsWith "converter: N" (by decide) (by decide))

theorem Property.unlinked_setting (p : Property) : Unlinked p.setting [] := by
  unfold Property.setting
  obtain ⟨added, assigned⟩ := unlinked_assignment p.target p.type _
  refine (Unlinked.line ?target).append (.block (assigned.append (.line ?done)) _ _)
  case target => exact isPlain_line "target: " (by simp) (by decide)
  case done => exact isPlain_line "Ok" (by decide) (by decide)

/-! ## References -/

/-- Whether a reference after some lines is one of a property, which has a converter and of which
    the lines before the reference come last, while nothing but blocks were opened. -/
structure StandsIn (properties : List Property) (before : List Stroke) (name : String) : Prop where
  opens : ∃ depth, Opens before depth
  owner : ∃ p ∈ properties, ∃ c ∈ p.converter, name = c.variable ∧ p.opening <:+ before

theorem StandsIn.after {before : List Stroke} {name : String} {depth : Nat}
    (opens : Opens strokes depth) (stands : StandsIn properties before name) :
    StandsIn properties (strokes ++ before) name where
  opens := by
    obtain ⟨inner, opensInner⟩ := stands.opens
    exact ⟨_, opens.append opensInner⟩
  owner := by
    obtain ⟨p, isProperty, c, isConverter, isVariable, comesLast⟩ := stands.owner
    exact ⟨p, isProperty, c, isConverter, isVariable, comesLast.trans (List.suffix_append _ _)⟩

/-- Whether all references of some lines are those of properties, and nothing is declared after the
    lines that was not before. -/
structure RefersTo (properties : List Property) (strokes : List Stroke) : Prop where
  declares : Declares strokes []
  each : ∀ before name after, strokes = before ++ reference name :: after →
    StandsIn properties before name

namespace RefersTo

theorem of_unlinked (unlinked : Unlinked strokes []) : RefersTo properties strokes where
  declares := unlinked.declares
  each before name after same := absurd (by simp [same]) (unlinked.refersToNone name)

theorem append (first : RefersTo properties strokes) (second : RefersTo properties more) :
    RefersTo properties (strokes ++ more) where
  declares := first.declares.append second.declares
  each before name after same := by
    obtain ⟨rest, isFirst⟩ | ⟨begun, rfl, isSecond⟩ := split_of_append same
    · exact first.each before name rest isFirst
    · exact (second.each begun name after isSecond).after first.declares.opens

theorem block (body : RefersTo properties strokes) (first last : String) :
    RefersTo properties (block first strokes last) where
  declares := body.declares.block first last
  each before name after same := by
    obtain ⟨rest, isInside⟩ | ⟨begun, rfl, isLast⟩ := split_of_append same
    · have opened : [Stroke.opening first] ++ strokes = before ++ reference name :: rest := isInside
      obtain ⟨_, isFirst⟩ | ⟨begun, rfl, isBody⟩ := split_of_append opened
      · exact absurd (by simp [isFirst]) (RefersToNone.opening first name)
      · exact (body.each begun name rest isBody).after (Opens.opening first)
    · exact absurd (by simp [isLast]) (RefersToNone.closing last name)

theorem property {p : Property} (isProperty : p ∈ properties) :
    RefersTo properties p.source where
  declares := by
    have inside := (Unlinked.of_plain p.isPlain_opening).declares.append
      (p.declares_converterLine.append p.unlinked_setting.declares)
    rw [p.source_eq_block]
    exact inside.block _ _
  each before name after same := by
    rw [p.source_eq] at same
    obtain ⟨_, isOpening⟩ | ⟨begun, rfl, isRest⟩ := split_of_append same
    · exact absurd (by simp [isOpening]) (p.refersToNone_opening name)
    cases begun with
    | nil =>
      obtain ⟨c, isConverter, isVariable⟩ := p.exists_of_converterLine (List.cons.inj isRest).1
      rw [List.append_nil]
      exact ⟨⟨1, p.opens_opening⟩, p, isProperty, c, isConverter, isVariable, List.suffix_rfl⟩
    | cons first begun =>
      have isSetting := (List.cons.inj isRest).2
      have none := p.unlinked_setting.refersToNone.append (.closing "\x7d,")
      exact absurd (by simp [isSetting]) (none name)

end RefersTo

/-! ### Categories -/

theorem RefersTo.lists {items : List Stroke} (refers : RefersTo properties items) (name : String)
    (apart : ∀ start ∈ ["let ", referenceStart],
      ¬ start.toList <+: name.toList ∧ ¬ name.toList <+: start.toList) :
    RefersTo properties (listSource name items) := by
  unfold listSource
  split
  next => exact .of_unlinked (.line (isPlain_line name (by simp) apart))
  next => exact refers.block _ _

theorem RefersTo.all {ps : List Property} (included : ps ⊆ properties) :
    RefersTo properties (ps.flatMap Property.source) := by
  induction ps with
  | nil => exact .of_unlinked .nil
  | cons p rest inductionHypothesis =>
    obtain ⟨isProperty, restIncluded⟩ := List.cons_subset.mp included
    exact (RefersTo.property isProperty).append (inductionHypothesis restIncluded)

theorem MetaCategory.isPlain_names (c : MetaCategory) :
    ∀ s ∈ [Stroke.line ("name: " ++ quoted c.name ++ ".to_string(),"),
        .line ("handle: " ++ quoted c.handle ++ ".to_string(),"),
        .line ("description: " ++ optionalLiteral c.description ++ ",")], s.IsPlain := by
  simp only [List.forall_mem_cons]
  refine ⟨isPlain_line "name: " ?_ (by decide), isPlain_line "handle: " ?_ (by decide),
    isPlain_line "description: " ?_ (by decide), List.forall_mem_nil _⟩
  all_goals simp

mutual

/-- By induction on the tree of categories: a property stands inside each of them. -/
theorem MetaCategory.refersTo_source (c : MetaCategory)
    (included : c.propertiesInside ⊆ properties) : RefersTo properties c.source := by
  obtain ⟨name, handle, description, own, children⟩ := c
  rw [MetaCategory.propertiesInside, List.append_subset] at included
  have inner := MetaCategory.refersTo_sourceAll children included.1
  have names := MetaCategory.isPlain_names ⟨name, handle, description, own, children⟩
  rw [MetaCategory.source]
  have withProperties := RefersTo.append (.of_unlinked (.of_plain names))
    ((RefersTo.all included.2).lists "properties" (by decide))
  exact (withProperties.append (inner.lists "children" (by decide))).block _ _

theorem MetaCategory.refersTo_sourceAll (siblings : List MetaCategory)
    (included : MetaCategory.propertiesAmong siblings ⊆ properties) :
    RefersTo properties (MetaCategory.sourceAll siblings) := by
  cases siblings with
  | nil => exact .of_unlinked .nil
  | cons c rest =>
    rw [MetaCategory.propertiesAmong, List.append_subset] at included
    rw [MetaCategory.sourceAll]
    exact (MetaCategory.refersTo_source c included.1).append
      (MetaCategory.refersTo_sourceAll rest included.2)

end

/-! ## Declarations -/

theorem Converter.toList_variable (c : Converter) :
    c.variable.toList = "property".toList ++ Nat.toDigits 10 c.id := by
  have digits : ∀ d ∈ "roperty".toList ++ Nat.toDigits 10 c.id,
      Text.isAscii d ∧ d.toLower = d := by
    have letters : "roperty".toList.all fun d => Text.isAscii d && d.toLower == d := by decide
    rw [List.forall_mem_append]
    refine ⟨by simpa using letters, fun d isDigit => ?_⟩
    exact Text.low_of_isDigit (isDigit_of_mem_toDigits isDigit)
  have named : c.name.toList = 'P' :: ("roperty".toList ++ Nat.toDigits 10 c.id) := by
    simp [Converter.name, String.toList_append, Nat.toString_eq_repr, Nat.repr_eq_ofList_toDigits]
  rw [Converter.variable, Text.lowercase, String.toList_ofList, named, Text.lowerAfter,
    Text.lowerAfter_of_low _ digits]
  rfl

theorem Converter.id_eq_of_variable {c other : Converter} (same : c.variable = other.variable) :
    c.id = other.id := by
  have lists := congrArg String.toList same
  rw [c.toList_variable, other.toList_variable, List.append_cancel_left_eq] at lists
  simpa using congrArg (digitsFrom 0) lists

theorem Converter.blank_not_mem_variable (c : Converter) : ' ' ∉ c.variable.toList := by
  rw [c.toList_variable, List.mem_append, not_or]
  refine ⟨by decide, fun isDigit => ?_⟩
  exact absurd (isDigit_of_mem_toDigits isDigit) (by decide)

def Converter.declaration (c : Converter) : String :=
  ConfigBinding.declaration c.variable c.representation c.target

theorem Converter.declaresVariable_declaration (c : Converter) :
    declaresVariable c.variable c.declaration := by
  rw [declaresVariable, List.isPrefixOf_iff_prefix]
  simp [declaration, ConfigBinding.declaration]

/-- The variable in a declaration ends at the first blank after it. -/
theorem Converter.eq_of_declaresVariable {c other : Converter}
    (declared : declaresVariable c.variable other.declaration) : c.variable = other.variable := by
  rw [declaresVariable, List.isPrefixOf_iff_prefix] at declared
  simp only [declaration, ConfigBinding.declaration, String.toList_append, List.append_assoc,
    List.prefix_append_right_inj] at declared
  obtain ⟨rest, same⟩ := declared
  have name : ∀ (d : Converter) (rest : List Char),
      (d.variable.toList ++ ' ' :: rest).takeWhile (· ≠ ' ') = d.variable.toList := by
    intro d rest
    rw [List.takeWhile_append_of_pos]
    · simp
    · intro character isCharacter
      exact decide_eq_true (ne_of_mem_of_not_mem isCharacter d.blank_not_mem_variable)
  rw [List.append_assoc] at same
  have names := congrArg (List.takeWhile (· ≠ ' ')) same
  exact String.toList_inj.mp ((name c _).symm.trans (names.trans (name other _)))

theorem unlinked_declarations (all : Converters) :
    Unlinked (all.map fun c => .line c.declaration) (all.map Converter.declaration).reverse := by
  induction all with
  | nil => exact .nil
  | cons c rest inductionHypothesis =>
    have isLet : (Stroke.line c.declaration).StartsWith "let " := by
      simp [Stroke.StartsWith, Converter.declaration, declaration]
    rw [List.map_cons, List.map_cons, List.reverse_cons]
    exact (Unlinked.declaration isLet).append inductionHypothesis

/-! ## Metadata -/

/-- What comes first in the source of metadata, before anything that is declared. -/
def Metadata.uses (m : Metadata) : List Stroke :=
  [.line "use std::sync::\x7bArc, Mutex\x7d;",
    .line "",
    .line "use configgen::backend::\x7bConverterArena, MetaCategory, Metadata, Property\x7d;",
    .line
      (if m.converters.isEmpty then "use configgen::ir::Ty;"
      else "use configgen::ir::\x7bConstruction, Ty\x7d;"),
    .line "use configgen::value::\x7bFromValue, Setter, Value\x7d;",
    .line ""]

def noConverters : String := "let mut converters = ConverterArena::new();"

def Metadata.preamble (m : Metadata) : List Stroke :=
  m.uses ++
    [.opening ("pub fn " ++ Text.snakeCase m.root ++ "_metadata(target: &Arc<Mutex<" ++ m.root ++
        ">>) -> Metadata \x7b")] ++
    ([.line noConverters] ++ m.converters.map fun c => .line c.declaration)

def Metadata.body (m : Metadata) : List Stroke :=
  block "let categories = vec![" (MetaCategory.sourceAll m.categories) "];" ++
    [.line ("Metadata \x7b root: " ++ quoted m.root ++ ".to_string(), categories, converters \x7d")]

theorem Metadata.source_eq (m : Metadata) :
    m.source = m.preamble ++ (m.body ++ [.closing "\x7d"]) := by
  have lines : m.converters.flatMap Converter.source =
      m.converters.map fun c => .line c.declaration := List.flatMap_pure_eq_map _ _
  unfold Metadata.source
  rw [lines]
  simp [preamble, body, uses, noConverters, block]

theorem Metadata.isPlain_uses (m : Metadata) : ∀ s ∈ m.uses, s.IsPlain := by
  have empty : (Stroke.line "").IsPlain :=
    ⟨⟨_, rfl⟩, by simp [Stroke.StartsWith], by simp [Stroke.StartsWith, referenceStart]⟩
  simp only [uses, List.forall_mem_cons]
  refine ⟨isPlain_line "use " ?_ (by decide), empty, isPlain_line "use " ?_ (by decide),
    isPlain_line "use " ?_ (by decide), isPlain_line "use " ?_ (by decide), empty,
    List.forall_mem_nil _⟩
  case refine_3 => split <;> simp
  all_goals simp

theorem Metadata.unlinked_converters (m : Metadata) :
    Unlinked ([.line noConverters] ++ m.converters.map fun c => .line c.declaration)
      ((m.converters.map Converter.declaration).reverse ++ [noConverters]) :=
  (Unlinked.declaration (by simp [noConverters, Stroke.StartsWith])).append
    (unlinked_declarations m.converters)

theorem Metadata.visible_preamble (m : Metadata) :
    visible m.preamble = (m.converters.map Converter.declaration).reverse ++ [noConverters] := by
  rw [visible, preamble, List.foldl_append, m.unlinked_converters.declares, List.foldl_append,
    (Unlinked.of_plain m.isPlain_uses).declares]
  simp [Stroke.enter]

theorem Metadata.refersToNone_preamble (m : Metadata) : RefersToNone m.preamble :=
  ((Unlinked.of_plain m.isPlain_uses).refersToNone.append (.opening _)).append
    m.unlinked_converters.refersToNone

theorem Metadata.refersTo_body (m : Metadata) : RefersTo m.properties m.body := by
  have categories : RefersTo m.properties (MetaCategory.sourceAll m.categories) :=
    MetaCategory.refersTo_sourceAll m.categories (List.Subset.refl _)
  refine (categories.block _ _).append (.of_unlinked (.line ?_))
  exact isPlain_line "Metadata " (by simp) (by decide)

theorem Converter.not_declaresVariable (c : Converter) :
    ¬ declaresVariable c.variable noConverters := by
  rw [declaresVariable, List.isPrefixOf_iff_prefix]
  simp [c.toList_variable, noConverters]

/-- After all converters are made, each variable stands for its own. -/
theorem Metadata.boundTo_variable {m : Metadata} (distinct : (m.converters.map Converter.id).Nodup)
    {c : Converter} (isMember : c ∈ m.converters) :
    boundTo c.variable m.preamble = some c.declaration := by
  rw [boundTo, m.visible_preamble]
  cases found : List.find? (declaresVariable c.variable)
      ((m.converters.map Converter.declaration).reverse ++ [noConverters]) with
  | none =>
    have isLine : c.declaration ∈
        (m.converters.map Converter.declaration).reverse ++ [noConverters] := by
      simpa using .inl ⟨c, isMember, rfl⟩
    exact absurd c.declaresVariable_declaration (List.find?_eq_none.mp found _ isLine)
  | some text =>
    have declared := List.find?_some found
    obtain isLet | isFirst := List.mem_append.mp (List.mem_of_find?_eq_some found)
    · obtain ⟨other, isOther, rfl⟩ := List.mem_map.mp (List.mem_reverse.mp isLet)
      have sameId := Converter.id_eq_of_variable (Converter.eq_of_declaresVariable declared)
      rw [List.inj_on_of_nodup_map distinct isMember isOther sameId]
    · rw [List.mem_singleton.mp isFirst] at declared
      exact absurd declared c.not_declaresVariable

/-! ## References and what they stand for -/

section References

variable {m : Metadata} (distinct : (m.converters.map Converter.id).Nodup)
  (served : ∀ p ∈ m.properties,
    p.representation = p.type.representation ∧ m.converters.Serve p.type p.converter)

include distinct served

theorem Metadata.boundTo_of_serve {p : Property} (isProperty : p ∈ m.properties) {c : Converter}
    (isConverter : c ∈ p.converter) :
    boundTo c.variable m.preamble = some (declaration c.variable p.representation p.type) := by
  obtain ⟨representation, conversion, inArena⟩ := served p isProperty
  rw [Metadata.boundTo_variable distinct (inArena c isConverter)]
  rw [isConverter] at conversion
  obtain ⟨sameRepresentation, sameType⟩ :=
    Prod.mk.inj (FieldType.eq_of_conversion? conversion.symm)
  rw [Converter.declaration, sameRepresentation, sameType, representation]

theorem Metadata.reference_isDeclared {before after : List Stroke} {name : String}
    (same : m.source = before ++ reference name :: after) :
    visible before = (m.converters.map Converter.declaration).reverse ++ [noConverters] ∧
      ∃ p ∈ m.properties, ∃ c ∈ p.converter, name = c.variable ∧ p.opening <:+ before ∧
        boundTo name before = some (declaration name p.representation p.type) := by
  rw [m.source_eq] at same
  obtain ⟨_, isPreamble⟩ | ⟨begun, rfl, isRest⟩ := split_of_append same
  · exact absurd (by simp [isPreamble]) (m.refersToNone_preamble name)
  obtain ⟨rest, isBody⟩ | ⟨_, _, isLast⟩ := split_of_append isRest
  · obtain ⟨⟨depth, opens⟩, p, isProperty, c, isConverter, rfl, stands⟩ :=
      m.refersTo_body.each begun name rest isBody
    refine ⟨?_, p, isProperty, c, isConverter, rfl, stands.trans (List.suffix_append _ _), ?_⟩
    · rw [opens.visible, m.visible_preamble]
    · rw [boundTo, opens.visible]
      exact Metadata.boundTo_of_serve distinct served isProperty isConverter
  · exact absurd (by simp [isLast]) (RefersToNone.closing "\x7d" name)

end References

theorem infix_block (first : String) (strokes : List Stroke) (last : String) :
    strokes <:+: block first strokes last :=
  ⟨[.opening first], [.closing last], rfl⟩

theorem infix_listSource (name : String) {wanted items : List Stroke} (isItem : wanted <:+: items) :
    wanted <:+: listSource name items := by
  unfold listSource
  split
  next empty =>
    rw [List.isEmpty_iff.mp empty, List.infix_nil] at isItem
    rw [isItem]
    exact List.nil_infix
  next => exact isItem.trans (infix_block _ _ _)

mutual

theorem MetaCategory.infix_source (c : MetaCategory) {p : Property}
    (inside : p ∈ c.propertiesInside) : p.source <:+: c.source := by
  obtain ⟨name, handle, description, own, children⟩ := c
  rw [MetaCategory.source]
  refine List.IsInfix.trans ?_ (infix_block _ _ _)
  obtain inChild | isOwn := List.mem_append.mp inside
  · have isItem := infix_listSource "children" (MetaCategory.infix_sourceAll children inChild)
    exact isItem.trans (List.suffix_append _ _).isInfix
  · have isItem : p.source <:+: own.flatMap Property.source :=
      List.infix_of_mem_flatten (List.mem_map_of_mem isOwn)
    exact (infix_listSource "properties" isItem).trans (List.infix_append _ _ _)

theorem MetaCategory.infix_sourceAll (siblings : List MetaCategory) {p : Property}
    (inside : p ∈ MetaCategory.propertiesAmong siblings) :
    p.source <:+: MetaCategory.sourceAll siblings := by
  cases siblings with
  | nil => cases inside
  | cons c rest =>
    rw [MetaCategory.sourceAll]
    obtain inFirst | inRest := List.mem_append.mp inside
    · exact (MetaCategory.infix_source c inFirst).trans (List.infix_append' [] _ _)
    · exact (MetaCategory.infix_sourceAll rest inRest).trans (List.suffix_append _ _).isInfix

end

theorem Metadata.infix_source {m : Metadata} {p : Property} (isProperty : p ∈ m.properties)
    {c : Converter} (isConverter : c ∈ p.converter) :
    p.opening ++ [reference c.variable] <:+: m.source := by
  have start : p.opening ++ [reference c.variable] <:+: p.source := by
    have isLine : p.converterLine = reference c.variable := by
      rw [Property.converterLine, isConverter]
    rw [p.source_eq, isLine]
    exact ⟨[], p.setting ++ [.closing "\x7d,"], by simp⟩
  have inBody : p.source <:+: m.body :=
    ((MetaCategory.infix_sourceAll m.categories isProperty).trans (infix_block _ _ _)).trans
      (List.prefix_append _ _).isInfix
  rw [m.source_eq, ← List.append_assoc]
  exact (start.trans inBody).trans (List.infix_append _ _ _)

/-- The metadata of a layout has one converter for each pair of a representation and a collection
    type among its fields, in the order of their first occurrence, and each property has the one
    that its type needs. Made again from nothing, the converters are the same. Wherever the source
    refers to a converter, just these have been made again, in their order; the reference is in a
    property that has a converter, and the variable stands for the one of the property's own types.
    Every property with a converter refers to it. -/
theorem converters_are_shared_exactly (l : Layout) :
    (Metadata.ofLayout l).converters.AreFor l.conversions ∧
      (∀ p ∈ (Metadata.ofLayout l).properties,
        p.representation = p.type.representation ∧
          (Metadata.ofLayout l).converters.Serve p.type p.converter) ∧
      Converters.internAll [] ((Metadata.ofLayout l).converters.map Converter.pair) =
        ((Metadata.ofLayout l).converters, (Metadata.ofLayout l).converters) ∧
      (∀ before name after,
        (Metadata.ofLayout l).source = before ++ reference name :: after →
        visible before =
            ((Metadata.ofLayout l).converters.map Converter.declaration).reverse ++
              [noConverters] ∧
          ∃ p ∈ (Metadata.ofLayout l).properties, ∃ c ∈ p.converter,
            name = c.variable ∧ p.opening <:+ before ∧
            boundTo name before = some (declaration name p.representation p.type)) ∧
      ∀ p ∈ (Metadata.ofLayout l).properties, ∀ c ∈ p.converter,
        p.opening ++ [reference c.variable] <:+: (Metadata.ofLayout l).source := by
  have areFor := l.converters_areFor
  have served := l.converters_serve
  have distinct : ((Metadata.ofLayout l).converters.map Converter.id).Nodup := by
    rw [areFor.ids]
    exact List.nodup_range
  refine ⟨areFor, served, areFor.internAll_pairs, ?_, ?_⟩
  · intro before name after same
    exact Metadata.reference_isDeclared distinct served same
  · intro p isProperty c isConverter
    exact Metadata.infix_source isProperty isConverter

/-- A root with three fields of collection types, two of them of one type. -/
def shelfRoot : ClassDecl :=
  { ClassDecl.named "Shelf" with
    members := [
      .nested { ClassDecl.named "Books" with
        members := [
          .field (FieldDecl.named "counts"
            (.declared "java.util.List" [.declared "java.lang.Integer" [] []] [])),
          .field (FieldDecl.named "titles" (.declared "java.util.List" [.string] [])),
          .nested { ClassDecl.named "Authors" with
            members := [
              .field (FieldDecl.named "names" (.declared "java.util.List" [.string] []))] }] }] }

def shelfLayout : Layout := shelfRoot.survey.1.get rfl

theorem shelfLayout_converters :
    shelfLayout.conversions.length = 3 ∧
      (Metadata.ofLayout shelfLayout).converters.map Converter.pair =
        [(.array .string, .collection "java.util.List" .string .append),
          (.array .int, .collection "java.util.List" .int .append)] ∧
      (Metadata.ofLayout shelfLayout).converters.map Converter.name = ["Property0", "Property1"] ∧
      ∃ p ∈ (Metadata.ofLayout shelfLayout).properties, p.name = "titles" ∧
        p.opening ++ [reference "property0"] <:+: (Metadata.ofLayout shelfLayout).source := by
  obtain ⟨areFor, -, -, -, referred⟩ := converters_are_shared_exactly shelfLayout
  refine ⟨by decide +kernel, by decide +kernel, ?_, ?_⟩
  · rw [areFor.names]
    decide +kernel
  · obtain ⟨p, third, isTitles, c, isConverter, isVariable⟩ :
        ∃ p, (Metadata.ofLayout shelfLayout).properties[2]? = some p ∧ p.name = "titles" ∧
          ∃ c ∈ p.converter, c.variable = "property0" :=
      ⟨_, rfl, rfl, _, rfl, by decide +kernel⟩
    have isProperty := List.mem_of_getElem? third
    refine ⟨p, isProperty, isTitles, ?_⟩
    rw [← isVariable]
    exact referred p isProperty c isConverter

end ConfigBinding
