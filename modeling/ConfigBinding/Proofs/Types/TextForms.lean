import ConfigBinding.Proofs.Decimal.Numerals
import ConfigBinding.Proofs.Types.Texts

/-!
# Texts of values

What is written under a key to give a field a value, and that it is read back. The items of a list
stand between commas, so strings in a list have to be without commas, and a list of nothing but the
empty string has no text of its own: the empty text is the empty list.

* `Value.IsScalarText`, `Value.IsText`: the texts of a value;
* `listItems_intercalate`, `intercalate_listItems`: items joined and taken apart again, both ways;
* `Accessor.parse_of_isText`: a text of a value is read as the value;
* `PropertySource.lookup_strings`: the strings of a list always make up the text under its key.
-/

namespace ConfigBinding

/-- Whether a text is one of a scalar. A double may be written in any way that reads back. -/
inductive Value.IsScalarText : Value → String → Prop where
  | boolean (b : Bool) : IsScalarText (.boolean b) (if b then "true" else "false")
  | int (n : Int32) : IsScalarText (.int n) (toString n.toInt)
  | double {d : Double} {text : String} (reads : readDouble text = some d) :
    IsScalarText (.double d) text
  | string (s : String) : IsScalarText (.string s) s

/-- Whether a text is one of a scalar or of a list of scalars. -/
inductive Value.IsText : Value → String → Prop where
  | scalar {value : Value} {text : String} (isText : value.IsScalarText text) : IsText value text
  | list {items : List Value} {texts : List String}
    (itemTexts : List.Forall₂ Value.IsScalarText items texts)
    (noComma : ∀ s, .string s ∈ items → ',' ∉ s.toList)
    (notBlank : items ≠ [.string ""]) :
    IsText (.array items) (String.intercalate "," texts)

/-! ## Joined items -/

theorem splitAtCommas_eq (chars : List Char) : splitAtCommas chars = chars.splitOn ',' := by
  induction chars with
  | nil => rfl
  | cons c rest inductionHypothesis =>
    rw [splitAtCommas, List.splitOn_cons_eq_if_modifyHead, inductionHypothesis]
    simp only [beq_iff_eq]
    split
    next => rfl
    next =>
      cases pieces : rest.splitOn ',' with
      | nil => exact absurd pieces (List.splitOn_ne_nil ',' rest)
      | cons piece pieces => rfl

theorem isEmpty_intercalate {texts : List String} (nonempty : texts ≠ [])
    (notBlank : texts ≠ [""]) : (String.intercalate "," texts).isEmpty = false := by
  rw [Bool.eq_false_iff]
  intro isEmpty
  have chars := congrArg String.toList (String.isEmpty_iff.mp isEmpty)
  rw [String.toList_intercalate] at chars
  cases texts with
  | nil => exact nonempty rfl
  | cons first rest =>
    cases rest with
    | nil =>
      rw [List.map_singleton, List.intercalate_singleton] at chars
      exact notBlank (by rw [String.toList_inj.mp chars])
    | cons second others =>
      rw [List.map_cons, List.map_cons, List.intercalate_cons_cons] at chars
      simp at chars

/-- Items without commas are found again in the text that they are joined to. -/
theorem listItems_intercalate {texts : List String} (noComma : ∀ text ∈ texts, ',' ∉ text.toList)
    (notBlank : texts ≠ [""]) : listItems (String.intercalate "," texts) = texts := by
  cases texts with
  | nil => rfl
  | cons first rest =>
    have pieces : ∀ piece ∈ (first :: rest).map String.toList, ',' ∉ piece := by
      intro piece member
      obtain ⟨text, isText, rfl⟩ := List.mem_map.mp member
      exact noComma text isText
    have split := List.splitOn_intercalate ',' pieces (by simp)
    rw [listItems, isEmpty_intercalate (by simp) notBlank, splitAtCommas_eq,
      String.toList_intercalate]
    have separator : ",".toList = [','] := rfl
    rw [separator, split, List.map_map]
    simp [Function.comp_def]

/-- The items of any text make up the text. -/
theorem intercalate_listItems (raw : String) : String.intercalate "," (listItems raw) = raw := by
  rw [listItems]
  split
  next isEmpty => rw [String.isEmpty_iff.mp isEmpty]; rfl
  next =>
    have separator : ",".toList = [','] := rfl
    rw [splitAtCommas_eq, ← String.toList_inj, String.toList_intercalate, List.map_map, separator]
    have asChars : (String.toList ∘ String.ofList : List Char → List Char) = id := by
      funext chars
      exact String.toList_ofList
    rw [asChars, List.map_id, List.intercalate_splitOn]

/-! ## Texts read back -/

theorem ScalarType.parse_of_isScalarText {type : ScalarType} {value : Value} {text : String}
    (isText : value.IsScalarText text) (conforms : value.conforms type.toFieldType) (key : String) :
    type.parse key text = .ok value := by
  have parsed : type.parse? text = some value := by
    cases isText with
    | boolean b =>
      cases type <;> simp [ScalarType.toFieldType, Value.conforms] at conforms
      cases b <;> rfl
    | int n =>
      cases type <;> simp [ScalarType.toFieldType, Value.conforms] at conforms
      rw [ScalarType.parse?, readInt32_toString]
      rfl
    | double reads =>
      cases type <;> simp [ScalarType.toFieldType, Value.conforms] at conforms
      rw [ScalarType.parse?, reads]
      rfl
    | string s =>
      cases type <;> simp [ScalarType.toFieldType, Value.conforms] at conforms
      rfl
  rw [ScalarType.parse, parsed]

/-- Only strings may have commas in their texts. -/
theorem Value.IsScalarText.noComma {value : Value} {text : String}
    (isText : value.IsScalarText text) (plain : ∀ s, value = .string s → ',' ∉ s.toList) :
    ',' ∉ text.toList := by
  cases isText with
  | boolean b => cases b <;> decide
  | int n =>
    rw [Int.toList_toString, List.mem_append]
    rintro (sign | digit)
    · split at sign
      next => simp at sign
      next => cases sign
    · exact absurd (isDigit_of_mem_toDigits digit) (by decide)
  | double reads => exact not_mem_of_readDouble reads isNoNumeral_comma
  | string => exact plain _ rfl

/-- Only the empty string has the empty text. -/
theorem Value.IsScalarText.eq_of_empty {value : Value} (isText : value.IsScalarText "") :
    value = .string "" := by
  -- No text of an int or a double is empty, which only shows once their texts are put in.
  generalize empty : "" = text at isText
  cases isText with
  | boolean b => cases b <;> simp at empty
  | int n =>
    have digits := congrArg String.toList empty
    rw [Int.toList_toString] at digits
    simp [Nat.toDigits_ne_nil] at digits
  | double reads =>
    rw [← empty, readDouble_empty] at reads
    cases reads
  | string s => rfl

theorem Accessor.parse_of_isText {accessor : Accessor} {content : Value} {text : String}
    (conforms : content.conforms accessor.type) (isText : content.IsText text) (key : String) :
    accessor.parse key text = .ok content := by
  rw [Accessor.parse_eq]
  cases isText with
  | scalar isScalar =>
    have notList : accessor.isList = false := by
      rw [Bool.eq_false_iff]
      intro isList
      rw [Accessor.type, if_pos isList] at conforms
      cases isScalar <;> simp [Value.conforms] at conforms
    simp only [Accessor.type, notList, Bool.false_eq_true, ↓reduceIte] at conforms ⊢
    exact ScalarType.parse_of_isScalarText isScalar conforms key
  | @list items texts itemTexts noComma notBlank =>
    have isList : accessor.isList = true := by
      cases given : accessor.isList with
      | true => rfl
      | false =>
        rw [Accessor.type, given] at conforms
        cases scalar : accessor.scalar <;>
          simp [scalar, ScalarType.toFieldType, Value.conforms] at conforms
    rw [Accessor.type, if_pos isList] at conforms
    have allConform := List.all_eq_true.mp conforms
    have commaFree : ∀ text ∈ texts, ',' ∉ text.toList := by
      intro text member
      obtain ⟨item, isItem, itemText⟩ := exists_of_mem_right itemTexts member
      exact itemText.noComma fun s isString => noComma s (isString ▸ isItem)
    have notBlankText : texts ≠ [""] := by
      rintro rfl
      cases itemTexts with
      | cons first rest =>
        cases rest
        exact notBlank (by rw [first.eq_of_empty])
    have parsed : texts.mapM (accessor.scalar.parse key) = .ok items := by
      refine mapM_eq_ok.mpr ?_
      have both := (List.forall₂_and_left _ _).mpr ⟨allConform, itemTexts⟩
      exact both.flip.imp fun text item given =>
        ScalarType.parse_of_isScalarText given.2 given.1 key
    rw [if_pos isList, listItems_intercalate commaFree notBlankText, parsed]
    rfl

/-- Whatever text is under the key of a list of strings, the strings make up the text. -/
theorem PropertySource.lookup_strings {source : PropertySource} {key raw : String}
    {accessor : Accessor} (isStrings : accessor.type = .array .string)
    (present : source key = some raw) (default : Value) :
    ∃ texts : List String,
      source.lookup key accessor default = .ok (.array (texts.map .string)) ∧
        String.intercalate "," texts = raw := by
  obtain ⟨scalar, isList⟩ := accessor
  cases isList with
  | false => cases scalar <;> cases isStrings
  | true =>
    cases scalar with
    | boolean | int | double => cases isStrings
    | string =>
      have parsed : (listItems raw).mapM (ScalarType.parse .string key) =
          .ok ((listItems raw).map .string) := by
        refine mapM_eq_ok.mpr ?_
        rw [List.forall₂_map_right_iff]
        exact List.forall₂_same.mpr fun text _ => rfl
      refine ⟨listItems raw, ?_, intercalate_listItems raw⟩
      simp only [PropertySource.lookup, present, Accessor.parse_eq, ↓reduceIte, parsed]
      rfl

end ConfigBinding
