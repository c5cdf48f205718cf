import ConfigBinding.Proofs.Layout.Siblings
import ConfigBinding.Proofs.Rendering.DeclaredTexts
import ConfigBinding.Proofs.Text.SnakeCase

/-!
# Legal identifiers

Declared names are rendered in snake case, and keywords among them in a form that is an identifier
all the same. But snake case leaves out the signs that a name begins with. So what is rendered
begins with a digit where this is the first of the letters and digits of its name, and is empty
where there are none.

* `Text.reservedWords`, `Text.isLegalIdentifier`: identifiers of generated source;
* `Text.isLegalIdentifier_identifier`: the identifier of one name;
* `assignmentIdentifiers`, `Binding.identifiers`: what declared names are rendered as;
* `assignment_eq_of_identifiers`: nothing else of them is in an assignment;
* `rendered_identifiers_are_legal_iff`: all identifiers of the bindings of a layout.
-/

namespace ConfigBinding

namespace Text

/-! ## Identifiers of generated source -/

/-- Words that are no identifiers by themselves: the keywords of generated source, those that are
    kept for later, and the underscore alone. -/
def reservedWords : List String :=
  ["_", "Self", "abstract", "as", "async", "await", "become", "box", "break", "const", "continue",
    "crate", "do", "dyn", "else", "enum", "extern", "false", "final", "fn", "for", "gen", "if",
    "impl", "in", "let", "loop", "macro", "match", "mod", "move", "mut", "override", "priv", "pub",
    "ref", "return", "self", "static", "struct", "super", "trait", "true", "try", "type", "typeof",
    "unsafe", "unsized", "use", "virtual", "where", "while", "yield"]

/-- Words that are no raw identifiers either. -/
def neverRaw : List String := ["_", "Self", "crate", "self", "super"]

/-- Whether characters are letters, digits and underscores of ASCII, of which a digit is not the
    first. -/
def isSpelled (chars : List Char) : Bool :=
  chars.head?.any (fun c => c.isAlpha || c == '_') && chars.all fun c => c.isAlphanum || c == '_'

/-- Whether a text is an identifier of generated source, raw or not. -/
def isLegalIdentifier (text : String) : Bool :=
  match text.toList with
  | 'r' :: '#' :: word => isSpelled word && !neverRaw.contains (String.ofList word)
  | chars => isSpelled chars && !reservedWords.contains text

/-- Whether the first of the letters and digits of a name is a letter. -/
def startsWithLetter (name : String) : Bool := (name.toList.find? isAlphanumeric).any Char.isAlpha

def IsAsciiText (text : String) : Prop := ∀ c ∈ text.toList, isAscii c

instance (text : String) : Decidable (IsAsciiText text) :=
  decidable_of_iff (text.toList.all isAscii) List.all_eq_true

theorem isLegalIdentifier_of_plain {text : String} (notRaw : '#' ∉ text.toList) :
    isLegalIdentifier text = (isSpelled text.toList && !reservedWords.contains text) := by
  unfold isLegalIdentifier
  split
  next word isRaw =>
    rw [isRaw] at notRaw
    exact absurd (by simp) notRaw
  next => rfl

theorem isLegalIdentifier_pathKeyword : ∀ word ∈ pathKeywords,
    isLegalIdentifier (word ++ "_") = word.toList.head?.any Char.isAlpha := by
  decide +kernel

theorem isLegalIdentifier_keyword : ∀ word ∈ keywords,
    isLegalIdentifier ("r#" ++ word) = word.toList.head?.any Char.isAlpha := by
  decide +kernel

/-- What is reserved in small letters has an identifier of its own. -/
theorem keyword_of_reserved : ∀ word ∈ reservedWords,
    word ∈ keywords ∨ word ∈ pathKeywords ∨ word = "_" ∨ word.toList.any Char.isUpper := by
  decide +kernel

/-! ## The identifier of a name -/

theorem toLower_alphanumeric {c : Char} (ascii : isAscii c) (alphanumeric : isAlphanumeric c) :
    c.toLower.isAlphanum ∧ ¬ c.toLower.isUpper ∧ c.toLower.isAlpha = c.isAlpha := by
  rw [isAlphanumeric, if_pos ascii] at alphanumeric
  refine of_isAscii (P := fun c => c.isAlphanum → c.toLower.isAlphanum ∧ ¬ c.toLower.isUpper ∧
    c.toLower.isAlpha = c.isAlpha) ?_ ascii alphanumeric
  decide +kernel

section Ascii

variable {name : String} (ascii : IsAsciiText name)
include ascii

theorem low_of_mem_snakeCase {c : Char} (isChar : c ∈ (snakeCase name).toList) :
    (c.isAlphanum || c == '_') ∧ ¬ c.isUpper := by
  obtain rfl | ⟨letter, isLetter, alphanumeric, rfl⟩ := eq_of_mem_snakeCase ascii isChar
  · decide
  · obtain ⟨isWordChar, low, -⟩ := toLower_alphanumeric (ascii letter isLetter) alphanumeric
    exact ⟨by simp [isWordChar], low⟩

theorem isAlphanum_of_head_snakeCase {c : Char} (isFirst : c ∈ (snakeCase name).toList.head?) :
    c.isAlphanum := by
  rw [head?_snakeCase ascii] at isFirst
  obtain ⟨letter, found, rfl⟩ := Option.map_eq_some_iff.mp isFirst
  exact (toLower_alphanumeric (ascii letter (List.mem_of_find?_eq_some found))
    (List.find?_some found)).1

theorem head?_any_isAlpha_snakeCase :
    (snakeCase name).toList.head?.any Char.isAlpha = startsWithLetter name := by
  rw [head?_snakeCase ascii, startsWithLetter]
  cases found : name.toList.find? isAlphanumeric with
  | none => rfl
  | some letter =>
    exact (toLower_alphanumeric (ascii letter (List.mem_of_find?_eq_some found))
      (List.find?_some found)).2.2

/-- Snake case that is no keyword is an identifier if it begins with a letter: nothing else is
    reserved in small letters. -/
theorem isLegalIdentifier_snakeCase (notKeyword : snakeCase name ∉ keywords)
    (notPath : snakeCase name ∉ pathKeywords) :
    isLegalIdentifier (snakeCase name) = (snakeCase name).toList.head?.any Char.isAlpha := by
  have notReserved : snakeCase name ∉ reservedWords := by
    intro isReserved
    -- Besides keywords there are the underscore, with which no snake case begins, and capitals.
    obtain isKeyword | isPath | isJoint | isCapital := keyword_of_reserved _ isReserved
    · exact notKeyword isKeyword
    · exact notPath isPath
    · have isFirst : '_' ∈ (snakeCase name).toList.head? := by rw [isJoint]; rfl
      exact absurd (isAlphanum_of_head_snakeCase ascii isFirst) (by decide)
    · obtain ⟨c, isChar, upper⟩ := List.any_eq_true.mp isCapital
      exact (low_of_mem_snakeCase ascii isChar).2 upper
  have spelled : ((snakeCase name).toList.all fun c => c.isAlphanum || c == '_') = true :=
    List.all_eq_true.mpr fun c isChar => (low_of_mem_snakeCase ascii isChar).1
  have first : ∀ c ∈ (snakeCase name).toList.head?, c.isAlphanum :=
    fun _ => isAlphanum_of_head_snakeCase ascii
  rw [isLegalIdentifier_of_plain (sign_not_mem_snakeCase (by decide) (by decide) name), isSpelled,
    spelled, List.contains_eq_mem, decide_eq_false notReserved, Bool.and_true, Bool.not_false,
    Bool.and_true]
  cases head : (snakeCase name).toList.head? with
  | none => rfl
  | some c =>
    have notJoint : c ≠ '_' := by
      rintro rfl
      exact absurd (first '_' head) (by decide)
    simp [notJoint]

/-- An identifier is legal exactly if the first letter or digit of its name is a letter. -/
theorem isLegalIdentifier_identifier :
    isLegalIdentifier (identifier name) = startsWithLetter name := by
  rw [← head?_any_isAlpha_snakeCase ascii, identifier]
  split
  next isPath => exact isLegalIdentifier_pathKeyword _ (List.contains_iff_mem.mp isPath)
  next notPath =>
    split
    next isKeyword => exact isLegalIdentifier_keyword _ (List.contains_iff_mem.mp isKeyword)
    next notKeyword =>
      exact isLegalIdentifier_snakeCase ascii (mt List.contains_iff_mem.mpr notKeyword)
        (mt List.contains_iff_mem.mpr notPath)

end Ascii

theorem isAsciiText_joined {names : List String} (ascii : ∀ name ∈ names, IsAsciiText name) :
    IsAsciiText (String.intercalate "_" names) := by
  intro c isChar
  obtain rfl | ⟨name, isName, isNameChar⟩ := eq_or_mem_of_mem_intercalate isChar
  · decide
  · exact ascii name isName c isNameChar

/-- The first letter or digit of joined names is that of the first name, if it has any. -/
theorem startsWithLetter_joined {first : String} (others : List String)
    (starts : startsWithLetter first) :
    startsWithLetter (String.intercalate "_" (first :: others)) := by
  obtain ⟨letter, found, isLetter⟩ := (Option.any_eq_true _ _).mp starts
  have foundInJoined : (String.intercalate "_" (first :: others)).toList.find? isAlphanumeric =
      some letter := by
    cases others with
    | nil => rw [String.intercalate_singleton, found]
    | cons second rest =>
      rw [String.intercalate_cons_cons, String.toList_append, String.toList_append,
        List.append_assoc, List.find?_append, found, Option.some_or]
  exact (Option.any_eq_true _ _).mpr ⟨letter, foundInJoined, isLetter⟩

end Text

/-! ## Identifiers of bindings -/

/-- The identifiers that an assignment to the field of a type has for declared names: those of the
    place, and for a collection that is filled item by item the variable that holds the items. -/
def assignmentIdentifiers (path : List String) (type : FieldType) : List String :=
  path.map Text.identifier ++
    match type with
    | .collection _ _ .append => [Text.identifier (String.intercalate "_" path)]
    | _ => []

theorem placeOf_eq_of_identifiers {path other : List String}
    (same : path.map Text.identifier = other.map Text.identifier) (base : String) :
    placeOf base path = placeOf base other := by
  have segments : ∀ names : List String, (names.map fun name => "." ++ Text.identifier name) =
      (names.map Text.identifier).map ("." ++ ·) := fun names => (List.map_map ..).symm
  rw [placeOf, placeOf, segments, segments, same]

/-- Nothing else of the declared names is in an assignment. -/
theorem assignment_eq_of_identifiers {path other : List String} {type : FieldType}
    (same : assignmentIdentifiers path type = assignmentIdentifiers other type)
    (base expression : String) :
    assignment base path type expression = assignment base other type expression := by
  unfold assignmentIdentifiers at same
  obtain ⟨places, items⟩ := List.append_inj' same (by split <;> rfl)
  have samePlace := placeOf_eq_of_identifiers places base
  cases type with
  | collection container component construction =>
    cases construction with
    | append =>
      have sameItems := List.singleton_inj.mp items
      simp only [assignment, samePlace, sameItems]
    | arrayConstructor => simp only [assignment, samePlace]
  | boolean | int | double | string | array component | unknown name =>
    simp only [assignment, samePlace]

theorem forall_assignmentIdentifiers_iff {path : List String} (nonempty : path ≠ [])
    (ascii : ∀ name ∈ path, Text.IsAsciiText name) (type : FieldType) :
    (∀ text ∈ assignmentIdentifiers path type, Text.isLegalIdentifier text) ↔
      ∀ name ∈ path, Text.startsWithLetter name := by
  have places : (∀ text ∈ path.map Text.identifier, Text.isLegalIdentifier text) ↔
      ∀ name ∈ path, Text.startsWithLetter name := by
    rw [List.forall_mem_map]
    exact forall₂_congr fun name isName => by
      rw [Text.isLegalIdentifier_identifier (ascii name isName)]
  unfold assignmentIdentifiers
  rw [List.forall_mem_append, places, and_iff_left_iff_imp]
  intro startWithLetters
  split
  next =>
    obtain ⟨first, others, rfl⟩ := List.exists_cons_of_ne_nil nonempty
    rw [List.forall_mem_singleton,
      Text.isLegalIdentifier_identifier (Text.isAsciiText_joined ascii)]
    exact Text.startsWithLetter_joined others (startWithLetters first List.mem_cons_self)
  next => exact List.forall_mem_nil _

/-- The identifiers that the source of a binding has for declared names: those of its assignments,
    and that of the method that is called after a sync. -/
def Binding.identifiers : Binding → List String
  | .store loader =>
    loader.fields.flatMap (fun field => assignmentIdentifiers field.target field.type) ++
      (loader.onSync.map fun hook => Text.identifier hook.name).toList
  | .property loader =>
    loader.fields.flatMap fun field => assignmentIdentifiers field.target field.type
  | .metadata tree => tree.properties.flatMap fun p => assignmentIdentifiers p.target p.type

def Layout.assignmentIdentifiers (l : Layout) : List String :=
  l.usableFields.flatMap fun u => ConfigBinding.assignmentIdentifiers u.target u.type

/-- Every binding of a layout has the same assignments, and only a store loader makes the call. -/
theorem Backend.identifiers_bindingOf {l : Layout} (sound : ∀ part ∈ l.parts, part.IsSound)
    (backend : Backend) :
    (backend.bindingOf l).identifiers = l.assignmentIdentifiers ++
      if backend = .store then (l.onSync.map fun hook => Text.identifier hook.name).toList
      else [] := by
  cases backend with
  | store =>
    have stored := Layout.storeFields_forall₂ sound
    exact congrArg (· ++ _) (flatMap_eq_flatMap_of_forall₂ (stored.imp fun u field isStored =>
      congrArg₂ _ isStored.target isStored.type))
  | property =>
    have read := Layout.propertyFields_forall₂ sound
    refine Eq.trans ?_ (List.append_nil _).symm
    exact flatMap_eq_flatMap_of_forall₂ (read.imp fun u field isRead =>
      congrArg₂ _ isRead.target isRead.type)
  | metadata =>
    have kept := Layout.properties_forall₂ l
    refine Eq.trans ?_ (List.append_nil _).symm
    exact flatMap_eq_flatMap_of_forall₂ (kept.imp fun u p isKept =>
      congrArg₂ _ isKept.target isKept.type)

theorem Backend.forall_identifiers_iff {l : Layout} (sound : ∀ part ∈ l.parts, part.IsSound)
    {P : String → Prop} :
    (∀ backend : Backend, ∀ text ∈ (backend.bindingOf l).identifiers, P text) ↔
      (∀ u ∈ l.usableFields, ∀ text ∈ assignmentIdentifiers u.target u.type, P text) ∧
        ∀ hook ∈ l.onSync, P (Text.identifier hook.name) := by
  simp only [Backend.identifiers_bindingOf sound]
  constructor
  · intro holds
    obtain ⟨assigned, called⟩ := List.forall_mem_append.mp (holds .store)
    refine ⟨fun u isUsable text isText => ?_, fun hook isHook => ?_⟩
    · exact assigned text (List.mem_flatMap.mpr ⟨u, isUsable, isText⟩)
    · apply called
      rw [if_pos rfl, Option.mem_toList]
      exact Option.mem_map_of_mem _ isHook
  · rintro ⟨assigned, called⟩ backend text isText
    obtain isAssigned | isCalled := List.mem_append.mp isText
    · obtain ⟨u, isUsable, isText⟩ := List.mem_flatMap.mp isAssigned
      exact assigned u isUsable text isText
    · split at isCalled
      next =>
        obtain ⟨hook, isHook, rfl⟩ := Option.mem_map.mp (Option.mem_toList.mp isCalled)
        exact called hook isHook
      next => cases isCalled

def ClassDecl.keptNames (root : ClassDecl) : List String :=
  root.innerClasses.flatMap (fun c => c.name :: c.configuredMembers.map fun f => f.name) ++
    root.onSyncMethods.map fun m => m.name

section Surveyed

variable {root : ClassDecl} {l : Layout} (surveyed : root.survey.1 = some l) {P : String → Prop}
  (each : ∀ name ∈ root.keptNames, P name)
include surveyed each

theorem Layout.forall_target_of_keptNames {p : PlacedField} (isIn : p.IsIn l) :
    ∀ name ∈ p.target, P name := by
  obtain ⟨members, -⟩ := List.forall_mem_append.mp each
  refine Layout.forall_target surveyed (fun c isInner => ?_) (fun c isInner f isMember => ?_) isIn
  · exact members c.name (List.mem_flatMap.mpr ⟨c, isInner, List.mem_cons_self⟩)
  · exact members f.name (List.mem_flatMap.mpr
      ⟨c, isInner, List.mem_cons_of_mem _ (List.mem_map_of_mem isMember)⟩)

theorem Layout.forall_hook_of_keptNames : ∀ hook ∈ l.onSync, P hook.name := by
  obtain ⟨-, methods⟩ := List.forall_mem_append.mp each
  intro hook isHook
  rw [ClassDecl.onSync_of_survey surveyed] at isHook
  obtain ⟨m, isFirst, rfl⟩ := Option.mem_map.mp isHook
  exact methods m.name (List.mem_map_of_mem (List.mem_of_mem_head? isFirst))

end Surveyed

/-- Where the names that are kept of a root are ASCII, the identifiers in the source of all bindings
    are legal exactly if the first of the letters and digits of every name is a letter: of the names
    that lead to a usable field, and of the method that is called after a sync. Keywords are no
    exception, and whether anything was reported does not matter. -/
theorem rendered_identifiers_are_legal_iff {root : ClassDecl} {l : Layout}
    (surveyed : root.survey.1 = some l) (ascii : ∀ name ∈ root.keptNames, Text.IsAsciiText name) :
    (∀ backend : Backend, ∀ text ∈ (backend.bindingOf l).identifiers,
        Text.isLegalIdentifier text) ↔
      (∀ u ∈ l.usableFields, ∀ name ∈ u.target, Text.startsWithLetter name) ∧
        ∀ hook ∈ l.onSync, Text.startsWithLetter hook.name := by
  rw [Backend.forall_identifiers_iff (P := fun text => Text.isLegalIdentifier text)
    (ClassDecl.survey_isSound surveyed)]
  refine and_congr (forall₂_congr fun u isUsable => ?_) (forall₂_congr fun hook isHook => ?_)
  · have isIn := Layout.isIn_of_mem_usableFields isUsable
    exact forall_assignmentIdentifiers_iff u.target_ne_nil
      (Layout.forall_target_of_keptNames surveyed ascii isIn) u.type
  · rw [Text.isLegalIdentifier_identifier
      (Layout.forall_hook_of_keptNames surveyed ascii hook isHook)]

/-- A root with keywords for names, some of which may not even be raw, with signs before letters,
    and with a collection that is filled item by item. -/
def kioskRoot : ClassDecl :=
  { ClassDecl.named "Kiosk" with
    members :=
      [.nested
          { ClassDecl.named "HTTPServer" with
            members :=
              [.nested
                  { ClassDecl.named "crate" with
                    members := [.field (FieldDecl.named "self" (.primitive "int"))] },
                .field (FieldDecl.named "_$port2" (.primitive "int")),
                .field (FieldDecl.named "loop" (.declared "java.util.List" [.string] []))] },
        .method { MethodDecl.named "type" with markers := [.onSync], callable := true }] }

def kioskLayout : Layout := kioskRoot.survey.1.get rfl

theorem kioskRoot_identifiers_are_legal :
    kioskRoot.survey.1 = some kioskLayout ∧ kioskRoot.survey.2 = [] ∧
      (∀ name ∈ kioskRoot.keptNames, Text.IsAsciiText name) ∧
      (∀ backend : Backend, ∀ text ∈ (backend.bindingOf kioskLayout).identifiers,
        Text.isLegalIdentifier text) ∧
      (Backend.store.bindingOf kioskLayout).identifiers =
        ["http_server", "crate_", "self_", "http_server", "port2", "http_server", "r#loop",
          "http_server_loop", "r#type"] := by
  have surveyed : kioskRoot.survey.1 = some kioskLayout := (Option.some_get _).symm
  have ascii : ∀ name ∈ kioskRoot.keptNames, Text.IsAsciiText name := by decide +kernel
  have startWithLetters : (∀ u ∈ kioskLayout.usableFields, ∀ name ∈ u.target,
      Text.startsWithLetter name) ∧
        ∀ hook ∈ kioskLayout.onSync, Text.startsWithLetter hook.name := by decide +kernel
  exact ⟨surveyed, by decide +kernel, ascii,
    (rendered_identifiers_are_legal_iff surveyed ascii).mpr startWithLetters, by decide +kernel⟩

/-- A root with a field whose name has a digit after its underscore. -/
def lockerRoot : ClassDecl :=
  { ClassDecl.named "Locker" with
    members :=
      [.nested
          { ClassDecl.named "Basic" with
            members := [.field (FieldDecl.named "_1" (.primitive "int"))] }] }

def lockerLayout : Layout := lockerRoot.survey.1.get rfl

/-- All its names are ASCII identifiers, and nothing is reported, and yet its field is assigned to
    at a place that is none. -/
theorem lockerRoot_is_rendered_with_a_digit :
    lockerRoot.survey.1 = some lockerLayout ∧ lockerRoot.survey.2 = [] ∧
      (∀ name ∈ lockerRoot.name :: lockerRoot.keptNames, isAsciiIdentifier name.toList) ∧
      (∀ backend : Backend, (backend.bindingOf lockerLayout).identifiers = ["basic", "1"]) ∧
      placeOf "target" ["Basic", "_1"] = "target.basic.1" ∧
      ¬ ∀ backend : Backend, ∀ text ∈ (backend.bindingOf lockerLayout).identifiers,
        Text.isLegalIdentifier text := by
  have surveyed : lockerRoot.survey.1 = some lockerLayout := (Option.some_get _).symm
  have identifiers : ∀ backend : Backend,
      (backend.bindingOf lockerLayout).identifiers = ["basic", "1"] := by
    intro backend
    cases backend <;> decide +kernel
  refine ⟨surveyed, by decide +kernel, by decide +kernel, identifiers, by decide +kernel, ?_⟩
  intro legal
  have isIdentifier : "1" ∈ (Backend.property.bindingOf lockerLayout).identifiers := by
    rw [identifiers]
    decide
  exact absurd (legal .property "1" isIdentifier) (by decide +kernel)

end ConfigBinding
