import ConfigBinding.Proofs.Binding.Emission
import ConfigBinding.Proofs.Rendering.Containment
import ConfigBinding.Proofs.Rendering.Converters
import ConfigBinding.Proofs.Rendering.Literals

/-!
# Declared texts in rendered source

Documentation, defaults, prefixes and names of members are written in quotes or as identifiers, so
whatever they hold, the source around them stays what it is. Only the names of the root and of
containers are written as they are declared, and these are made of ASCII identifiers.

* `IsDottedName`: identifiers with points between them;
* `Value.isExpression_literal`, `FieldType.isSource_literal`: values and types;
* `StoreLoader.areSource`, `PropertyLoader.areSource`, `Metadata.areSource`: the lines of bindings;
* `Binding.texts`: the texts that a binding has to be found with in its source;
* `rendered_source_keeps_texts_quoted`: the source of the bindings of a layout.
-/

namespace ConfigBinding

/-! ## Words -/

theorem isSign_of_mem_signs : ∀ c ∈ signs, Text.IsSign c ∧ c ≠ '_' ∧ c ≠ '#' :=
  forall_signs (by decide)

theorem isWord_snakeCase (name : String) : IsWord (Text.snakeCase name) := by
  intro c isSign
  obtain ⟨sign, notJoint, -⟩ := isSign_of_mem_signs c isSign
  exact Text.sign_not_mem_snakeCase sign notJoint name

theorem isWord_identifier (name : String) : IsWord (Text.identifier name) := by
  intro c isSign
  obtain ⟨sign, notJoint, notRaw⟩ := isSign_of_mem_signs c isSign
  exact Text.sign_not_mem_identifier sign notJoint notRaw name

theorem isWord_placeOf {base : String} (isWord : IsWord base) (path : List String) :
    IsWord (placeOf base path) := by
  refine isWord.append ?_
  induction path with
  | nil => decide
  | cons name rest inductionHypothesis =>
    have point : IsWord "." := by decide
    rw [List.map_cons, String.join_cons]
    exact (point.append (isWord_identifier name)).append inductionHypothesis

theorem isWord_method (accessor : Accessor) : IsWord accessor.method :=
  IsWord.append (by decide) (isWord_snakeCase accessor.suffix)

theorem isWord_itemName (type : FieldType) : IsWord type.itemName := by
  have names : ∀ name ∈ ["bool", "i32", "f64", "String"], IsWord name := by decide
  apply names
  cases type <;> simp [FieldType.itemName]

theorem isWord_construction (construction : Construction) : IsWord construction.literal := by
  cases construction with
  | append | arrayConstructor => decide

theorem isNoNumeral_of_mem_signs : ∀ c ∈ signs, IsNoNumeral c ∧ c ≠ '-' := by
  unfold IsNoNumeral
  exact forall_signs (by decide)

/-- Numbers are written with digits, points, and signs of their own. -/
theorem isWord_number {text : String} {negative : Bool} {chars : List Char}
    (isText : text.toList = (if negative then ['-'] else []) ++ chars)
    (numeral : ∀ c, IsNoNumeral c → c ∉ chars) : IsWord text := by
  intro c isSign
  obtain ⟨other, noMinus⟩ := isNoNumeral_of_mem_signs c isSign
  rw [isText, List.mem_append, not_or]
  refine ⟨?_, numeral c other⟩
  split <;> simp [noMinus]

theorem isWord_intLiteral (n : Int32) : IsWord (intLiteral n) := by
  unfold intLiteral
  split
  next => decide
  next =>
    split
    next => decide
    next =>
      have isText : (toString n.toInt).toList =
          (if decide (n.toInt < 0) then ['-'] else []) ++ Nat.toDigits 10 n.toInt.natAbs := by
        rw [Int.toList_toString]
        simp
      exact isWord_number isText fun c other =>
        not_mem_of_all_isDigit (all_isDigit_toDigits _) other

theorem isWord_doubleLiteral (d : Double) : IsWord (doubleLiteral d) := by
  cases d with
  | nan => exact of_decide_eq_true rfl
  | infinite negative =>
    cases negative with
    | false | true => exact of_decide_eq_true rfl
  | finite negative m =>
    have isText : (doubleLiteral (.finite negative m)).toList =
        (if negative then ['-'] else []) ++ DoubleStyle.source.magnitude m := String.toList_ofList
    obtain ⟨decimal, reads⟩ := DoubleStyle.source.exists_readDecimal_magnitude m
    exact isWord_number isText fun c other => not_mem_of_readDecimal reads other

theorem Converter.isWord_variable (c : Converter) : IsWord c.variable := by
  have letters : IsWord "property" := by decide
  intro d isSign
  obtain ⟨other, -⟩ := isNoNumeral_of_mem_signs d isSign
  rw [c.toList_variable, List.mem_append, not_or]
  exact ⟨letters d isSign, not_mem_of_all_isDigit (all_isDigit_toDigits _) other⟩

/-! ### Qualified names -/

/-- Whether characters are an ASCII identifier: letters, digits, underscores and dollar signs, of
    which a digit is not the first. -/
def isAsciiIdentifier (chars : List Char) : Bool :=
  chars.head?.any (fun c => !c.isDigit) &&
    chars.all fun c => c.isAlphanum || c == '_' || c == '$'

/-- Whether a name is made of ASCII identifiers with points between them. -/
def IsDottedName (name : String) : Prop :=
  ∀ piece ∈ name.toList.splitOn '.', isAsciiIdentifier piece

instance (name : String) : Decidable (IsDottedName name) :=
  inferInstanceAs (Decidable (∀ piece ∈ _, _))

/-- What is not a separator is kept in some piece. -/
theorem exists_piece {separator c : Char} (other : c ≠ separator) {chars : List Char}
    (isChar : c ∈ chars) : ∃ piece ∈ chars.splitOn separator, c ∈ piece := by
  induction chars with
  | nil => cases isChar
  | cons first rest inductionHypothesis =>
    rw [List.splitOn_cons_eq_if_modifyHead]
    split
    next isSeparator =>
      obtain rfl | isLater := List.mem_cons.mp isChar
      · exact absurd (eq_of_beq isSeparator) other
      · obtain ⟨piece, isPiece, inPiece⟩ := inductionHypothesis isLater
        exact ⟨piece, List.mem_cons_of_mem _ isPiece, inPiece⟩
    next =>
      obtain ⟨head, others, split⟩ :=
        List.exists_cons_of_ne_nil (List.splitOn_ne_nil separator rest)
      rw [split, List.modifyHead_cons]
      obtain rfl | isLater := List.mem_cons.mp isChar
      · exact ⟨_, List.mem_cons_self, List.mem_cons_self⟩
      · obtain ⟨piece, isPiece, inPiece⟩ := inductionHypothesis isLater
        rw [split] at isPiece
        obtain rfl | isOther := List.mem_cons.mp isPiece
        · exact ⟨_, List.mem_cons_self, List.mem_cons_of_mem _ inPiece⟩
        · exact ⟨piece, List.mem_cons_of_mem _ isOther, inPiece⟩

theorem IsDottedName.isWord {name : String} (isDotted : IsDottedName name) : IsWord name := by
  intro c isSign isChar
  have noLetter : ∀ sign ∈ signs,
      sign ≠ '.' ∧ (sign.isAlphanum || sign == '_' || sign == '$') = false :=
    forall_signs (by decide)
  obtain ⟨noPoint, noName⟩ := noLetter c isSign
  obtain ⟨piece, isPiece, inPiece⟩ := exists_piece noPoint isChar
  have isIdentifier := isDotted piece isPiece
  rw [isAsciiIdentifier, Bool.and_eq_true] at isIdentifier
  have isNameChar := List.all_eq_true.mp isIdentifier.2 c inPiece
  rw [noName] at isNameChar
  cases isNameChar

theorem IsWord.simpleName {name : String} (isWord : IsWord name) :
    IsWord (simpleName name) := by
  intro c isSign isChar
  have inName : c ∈ name.toList := by
    rw [ConfigBinding.simpleName, String.toList_ofList, List.mem_reverse] at isChar
    exact List.mem_reverse.mp ((List.takeWhile_subset _) isChar)
  exact isWord c isSign inName

/-! ## Values and types -/

mutual

def Value.texts : Value → List String
  | .boolean _ | .int _ | .double _ => []
  | .string text => [text]
  | .array items => Value.textsAmong items
  | .collection _ _ items => Value.textsAmong items

def Value.textsAmong : List Value → List String
  | [] => []
  | value :: rest => value.texts ++ Value.textsAmong rest

end

def FieldType.texts : FieldType → List String
  | .boolean | .int | .double | .string => []
  | .array component => component.texts
  | .collection container component _ => container :: component.texts
  | .unknown name => [name]

mutual

/-- By induction on the value, whatever type it is written for. -/
theorem Value.isExpression_literal (type : FieldType) (value : Value) :
    IsExpression (value.literal type) value.texts := by
  cases value with
  | boolean value =>
    have isWord : IsWord (if value then "true" else "false") := by cases value <;> decide
    exact .of_isSource (isWord.isSource [])
  | int n => exact .of_isSource ((isWord_intLiteral n).isSource [])
  | double d => exact .of_isSource ((isWord_doubleLiteral d).isSource [])
  | string text => exact .quoted text
  | array items => exact Value.isExpression_listLiteral _ items
  | collection container construction items => exact Value.isExpression_listLiteral _ items

theorem Value.isExpression_listLiteral (component : FieldType) (items : List Value) :
    IsExpression (Value.listLiteral component items) (Value.textsAmong items) := by
  cases items with
  | nil =>
    have typed := (IsSource.of_code "Vec::<" [] (.of rfl)).word (isWord_itemName component)
    exact .of_isSource (typed.code ">::new()" [] (.of rfl))
  | cons first rest =>
    have begun := IsSource.of_expression "vec![" [']'] (.of rfl rfl)
      (Value.isExpression_literal component first)
    have items := begun.part (Value.isSource_restLiteral component rest)
    exact .of_isSource (items.code "]" [] (.of rfl))

theorem Value.isSource_restLiteral (component : FieldType) (items : List Value) :
    IsSource [] (Value.restLiteral component items).toList [] (Value.textsAmong items) := by
  cases items with
  | nil => exact .nil
  | cons value rest =>
    have begun := IsSource.of_expression ", " [] (.of rfl rfl)
      (Value.isExpression_literal component value)
    exact begun.part (Value.isSource_restLiteral component rest)

end

theorem FieldType.isSource_literal (type : FieldType) :
    IsSource [] type.literal.toList [] type.texts := by
  induction type with
  | boolean => exact .of_code "Ty::Boolean" [] (.of rfl)
  | int => exact .of_code "Ty::Int" [] (.of rfl)
  | double => exact .of_code "Ty::Double" [] (.of rfl)
  | string => exact .of_code "Ty::String" [] (.of rfl)
  | array component inductionHypothesis =>
    have begun := IsSource.of_code "Ty::Array(Box::new(" [')', ')'] (.of rfl)
    exact (begun.part inductionHypothesis).code "))" [] (.of rfl)
  | collection container component construction inductionHypothesis =>
    have begun := IsSource.of_expression "Ty::Collection \x7b container: " ['\x7d'] (.of rfl rfl)
      (.quoted container)
    have typed := begun.code ".to_string(), component: Box::new(" [')', '\x7d'] (.of rfl)
    have items := (typed.part inductionHypothesis).code "), construction: " ['\x7d'] (.of rfl)
    exact (items.word (isWord_construction construction)).code " \x7d" [] (.of rfl)
  | unknown name =>
    have begun := IsSource.of_expression "Ty::Unknown(" [')'] (.of rfl rfl) (.quoted name)
    exact begun.code ".to_string())" [] (.of rfl)

theorem isSource_optionalLiteral (text : Option String) :
    IsSource [] (optionalLiteral text).toList [] text.toList := by
  cases text with
  | none => exact .of_code "None" [] (.of rfl)
  | some text =>
    have begun := IsSource.of_expression "Some(" [')'] (.of rfl rfl) (.quoted text)
    exact begun.code ".to_string())" [] (.of rfl)

/-! ## Assignments -/

def FieldType.container? : FieldType → Option String
  | .collection container _ _ => some container
  | _ => none

theorem areSource_assignment {base : String} (isWord : IsWord base) (path : List String)
    {type : FieldType} (dotted : ∀ container ∈ type.container?, IsDottedName container)
    {expression : String} {texts : List String}
    (isSource : IsSource [] expression.toList [] texts) :
    AreSource (assignment base path type expression) texts := by
  have place := (isWord_placeOf isWord path).isSource []
  unfold assignment
  split
  next =>
    have items := isWord_identifier (String.intercalate "_" path)
    have bound := ((IsSource.of_code "let " [] (.of rfl)).word items).code " = " [] (.of rfl)
    have held := (bound.part isSource).code ";" [] (.of rfl)
    have emptied := place.code " = Default::default();" [] (.of rfl)
    have each := (IsSource.of_code "for item in " [] (.of rfl)).word items
    have extended := place.code ".extend([item]);" [] (.of rfl)
    refine .of_eq (.append (.cons held (.stroke (s := .line _) emptied))
      (.block (each.code " \x7b" ['\x7d'] (.of rfl)) (.stroke (s := .line _) extended) (.of rfl)))
      ?texts
    case texts => simp only [List.append_nil, List.nil_append]
  next container _ =>
    have container := (dotted container rfl).isWord.simpleName
    have made := ((place.code " = " [] (.of rfl)).word container).code "::from(" [')'] (.of rfl)
    exact .stroke ((made.part isSource).code ");" [] (.of rfl))
  next =>
    exact .stroke (((place.code " = " [] (.of rfl)).part isSource).code ";" [] (.of rfl))

/-! ## Store loaders -/

theorem isSource_restartCalls (restart : Restart) :
    IsSource [] (restartCalls restart).toList [] [] := by
  have call : ∀ {flag : Bool} {own : String}, IsCode [] own [] →
      IsSource [] (if flag then own else "").toList [] [] := by
    intro flag own isCode
    split
    next => exact isCode.isSource
    next => exact .nil
  unfold restartCalls
  exact IsSource.part (call (.of rfl)) (call (.of rfl))

theorem isSource_languageCall (key : Option String) :
    IsSource [] (languageCall key).toList [] key.toList := by
  cases key with
  | none => exact .nil
  | some key =>
    have begun := IsSource.of_expression ".set_language_key(" [')'] (.of rfl rfl) (.quoted key)
    exact begun.code ")" [] (.of rfl)

theorem isSource_bounds {least greatest : String} (leastIsWord : IsWord least)
    (greatestIsWord : IsWord greatest) :
    IsSource [] (".set_min_value(" ++ least ++ ").set_max_value(" ++ greatest ++ ")").toList []
      [] := by
  have begun := (IsSource.of_code ".set_min_value(" [')'] (.of rfl)).word leastIsWord
  exact ((begun.code ").set_max_value(" [')'] (.of rfl)).word greatestIsWord).code ")" [] (.of rfl)

theorem isSource_rangeCalls (range : Option FieldRange) :
    IsSource [] ((range.map FieldRange.calls).getD "").toList [] [] := by
  cases range with
  | none => exact .nil
  | some range =>
    cases range with
    | int min max => exact isSource_bounds (isWord_intLiteral min) (isWord_intLiteral max)
    | double min max => exact isSource_bounds (isWord_doubleLiteral min) (isWord_doubleLiteral max)

/-- The texts of a field that is bound to a store, as its source has them. -/
def StoreField.texts (field : StoreField) : List String :=
  [field.category, field.key] ++ field.default.texts ++ field.description.toList ++
    field.languageKey.toList

theorem StoreField.areSource (field : StoreField)
    (dotted : ∀ container ∈ field.type.container?, IsDottedName container) :
    AreSource field.source field.texts := by
  unfold StoreField.source
  extract_lets description setting
  have described : IsSource [] description.toList [] field.description.toList := by
    unfold description
    split
    next text isText =>
      rw [isText]
      have begun := IsSource.of_expression "Some(" [')'] (.of rfl rfl) (.quoted text)
      exact begun.code ")" [] (.of rfl)
    next isNone =>
      rw [isNone]
      exact .of_code "None" [] (.of rfl)
  have category := IsSource.of_expression "config.get(" [')'] (.of rfl rfl) (.quoted field.category)
  have key := category.expression ", " [')'] (.of rfl rfl) (.quoted field.key)
  have default := key.expression ", &Value::from(" [')', ')'] (.of rfl rfl)
    (Value.isExpression_literal field.type field.default)
  have set := ((default.code "), " [')'] (.of rfl)).part described).code ")" [] (.of rfl)
  have decorated := ((set.part (isSource_restartCalls field.restart)).part
    (isSource_rangeCalls field.range)).part (isSource_languageCall field.languageKey)
  have read := (decorated.code "." [] (.of rfl)).word (isWord_method field.accessor)
  have assigned := areSource_assignment (by decide : IsWord "target") field.target dotted
    (read.code "()" [] (.of rfl))
  simp only [List.append_nil] at assigned
  exact assigned

def Decoration.texts (d : Decoration) : List String :=
  [d.name] ++ d.languageKey.toList ++ d.comment.toList

theorem Decoration.areSource (d : Decoration) : AreSource d.source d.texts := by
  unfold Decoration.source
  extract_lets comment
  have commented : IsSource [] comment.toList [] d.comment.toList := by
    unfold comment
    split
    next text isText =>
      rw [isText]
      have begun := IsSource.of_expression ".set_comment(" [')'] (.of rfl rfl) (.quoted text)
      exact begun.code ")" [] (.of rfl)
    next isNone =>
      rw [isNone]
      exact .nil
  have named := IsSource.of_expression "config.category(" [')'] (.of rfl rfl) (.quoted d.name)
  have decorated := (((named.code ")" [] (.of rfl)).part (isSource_languageCall d.languageKey)).part
    (isSource_restartCalls d.restart)).part commented
  rw [List.append_nil] at decorated
  exact .stroke (decorated.code ";" [] (.of rfl))

def StoreStep.texts : StoreStep → List String
  | .field bound => bound.texts
  | .category decoration => decoration.texts

def StoreLoader.texts (loader : StoreLoader) : List String :=
  loader.steps.flatMap StoreStep.texts

theorem StoreLoader.areSource {loader : StoreLoader} (named : IsWord loader.root)
    (dotted : ∀ field ∈ loader.fields, ∀ container ∈ field.type.container?,
      IsDottedName container) :
    AreSource loader.source loader.texts := by
  unfold StoreLoader.source
  extract_lets root hook
  have hooked : AreSource hook [] := by
    unfold hook
    split
    next hook _ =>
      have method := ((named.isSource []).code "::" [] (.of rfl)).word (isWord_identifier hook.name)
      exact .stroke (method.code "();" [] (.of rfl))
    next => exact .nil
  have steps : AreSource (loader.steps.flatMap StoreStep.source) loader.texts := by
    refine .flatMap fun step isStep => ?_
    cases step with
    | field bound => exact bound.areSource (dotted bound (List.mem_filterMap.mpr ⟨_, isStep, rfl⟩))
    | category decoration => exact decoration.areSource
  have struct := (IsSource.of_code "pub struct " [] (.of rfl)).word named
  have implementation := (IsSource.of_code "impl " [] (.of rfl)).word named
  have sync := (IsSource.of_code
    "pub fn sync<S: StructuredStore + ?Sized>(config: &mut S, target: &mut " [')'] (.of rfl)).word
      named
  have init := (IsSource.of_code "pub fn init<S: FileStore>(path: &Path, target: &mut " [')']
    (.of rfl)).word named
  refine .of_eq (.append
    (.code (.of rfl) (.code (.of rfl) (.code (.of rfl) (.code (.of rfl) (.code (.of rfl)
      (.code (.of rfl) (.cons (struct.code "Loader;" [] (.of rfl)) (.code (.of rfl) .nil))))))))
    (.block (implementation.code "Loader \x7b" ['\x7d'] (.of rfl)) (.append (.append
      (.block (sync.code ") -> Result<(), BindError> \x7b" ['\x7d'] (.of rfl))
        (.append (.append steps hooked) (.code (.of rfl) (.code (.of rfl) .nil))) (.of rfl))
      (.code (.of rfl) .nil))
      (.block (init.code ") -> Result<S, BindError> \x7b" ['\x7d'] (.of rfl))
        (.code (.of rfl) (.code (.of rfl) (.code (.of rfl) (.code (.of rfl) .nil)))) (.of rfl)))
      (.of rfl))) ?texts
  case texts => simp only [List.append_nil, List.nil_append]

/-! ## Property loaders -/

def PropertyField.texts (field : PropertyField) : List String :=
  [field.key] ++ field.default.texts

theorem PropertyField.areSource (field : PropertyField)
    (dotted : ∀ container ∈ field.type.container?, IsDottedName container) :
    AreSource field.source field.texts := by
  have reading := (IsSource.of_code "store::" [] (.of rfl)).word (isWord_method field.accessor)
  have key := reading.expression "(source, " [')'] (.of rfl rfl) (.quoted field.key)
  have default := key.expression ", " [')'] (.of rfl rfl)
    (Value.isExpression_literal field.type field.default)
  exact areSource_assignment (by decide) field.target dotted (default.code ")?" [] (.of rfl))

def PropertyLoader.texts (loader : PropertyLoader) : List String :=
  loader.fields.flatMap PropertyField.texts

theorem PropertyLoader.areSource {loader : PropertyLoader} (named : IsWord loader.root)
    (dotted : ∀ field ∈ loader.fields, ∀ container ∈ field.type.container?,
      IsDottedName container) :
    AreSource loader.source loader.texts := by
  have fields : AreSource (loader.fields.flatMap PropertyField.source) loader.texts :=
    .flatMap fun field isField => field.areSource (dotted field isField)
  have struct := (IsSource.of_code "pub struct " [] (.of rfl)).word named
  have implementation := (IsSource.of_code "impl " [] (.of rfl)).word named
  have init := (IsSource.of_code
    "pub fn init<S: PropertySource + ?Sized>(source: &S, target: &mut " [')'] (.of rfl)).word named
  refine .of_eq (.append
    (.code (.of rfl) (.code (.of rfl) (.code (.of rfl)
      (.cons (struct.code "Properties;" [] (.of rfl)) (.code (.of rfl) .nil)))))
    (.block (implementation.code "Properties \x7b" ['\x7d'] (.of rfl))
      (.block (init.code ") -> Result<(), BindError> \x7b" ['\x7d'] (.of rfl))
        (.append fields (.code (.of rfl) .nil)) (.of rfl)) (.of rfl))) ?texts
  case texts => simp only [List.append_nil, List.nil_append]

/-! ## Metadata -/

theorem isSource_entry {label value : String} {texts : List String} (isCode : IsCode [] label [])
    (isSource : IsSource [] value.toList [] texts) :
    IsSource [] (label ++ value ++ ",").toList [] texts :=
  ((IsSource.of_code label [] isCode).part isSource).code "," [] (.of rfl)

theorem isSource_textEntry {label : String} (isLead : IsLead [] label []) (text : String) :
    IsSource [] (label ++ Text.quoted text ++ ".to_string(),").toList [] [text] :=
  (IsSource.of_expression label [] isLead (.quoted text)).code ".to_string()," [] (.of rfl)

def Converter.texts (c : Converter) : List String := c.representation.texts ++ c.target.texts

theorem Converter.areSource (c : Converter) : AreSource c.source c.texts := by
  have named := ((IsSource.of_code "let " [] (.of rfl)).word c.isWord_variable).code
    " = converters.intern(" [')'] (.of rfl)
  have types := ((named.part c.representation.isSource_literal).code ", " [')'] (.of rfl)).part
    c.target.isSource_literal
  exact .stroke (types.code ");" [] (.of rfl))

def Property.texts (p : Property) : List String :=
  [p.name] ++ p.description.toList ++ [p.owner] ++ p.representation.texts ++ p.type.texts ++
    p.default.texts ++ p.target

theorem isExpression_names (names : List String) :
    IsExpression
      (String.intercalate ", " (names.map fun name => Text.quoted name ++ ".to_string()"))
      names := by
  have owned : ∀ name, IsExpression (Text.quoted name ++ ".to_string()") [name] :=
    fun name => (IsExpression.quoted name).part (.of_code ".to_string()" [] (.of rfl))
  induction names with
  | nil => exact .of_isSource .nil
  | cons name rest inductionHypothesis =>
    cases rest with
    | nil => exact owned name
    | cons second others =>
      rw [List.map_cons, List.map_cons, String.intercalate_cons_cons, String.append_assoc]
      exact (owned name).part (.of_expression ", " [] (.of rfl rfl) inductionHypothesis)

namespace Property

variable (p : Property)

theorem areSource_opening :
    AreSource p.opening.tail ([p.name] ++ p.description.toList ++ [p.owner] ++
      p.representation.texts ++ p.type.texts ++ p.default.texts) := by
  have default := IsSource.of_expression "default_value: Value::from(" [')'] (.of rfl rfl)
    (Value.isExpression_literal p.type p.default)
  refine .of_eq (.cons (isSource_textEntry (.of rfl rfl) p.name)
    (.cons (isSource_entry (.of rfl) (isSource_optionalLiteral p.description))
    (.cons (isSource_textEntry (.of rfl rfl) p.owner)
      (.cons (isSource_entry (.of rfl) p.representation.isSource_literal)
        (.cons (isSource_entry (.of rfl) p.type.isSource_literal)
          (.stroke (default.code ")," [] (.of rfl)))))))) ?texts
  case texts => simp only [List.append_assoc]

theorem isSource_converterLine : IsSource [] p.converterLine.text.toList [] [] := by
  unfold converterLine
  split
  next c _ =>
    have shared := (IsSource.of_code "converter: Some(Arc::clone(&" [')', ')'] (.of rfl)).word
      c.isWord_variable
    exact shared.code "))," [] (.of rfl)
  next => exact .of_code "converter: None," [] (.of rfl)

theorem areSource_setting (dotted : ∀ container ∈ p.type.container?, IsDottedName container) :
    AreSource p.setting p.target := by
  unfold setting
  extract_lets names read
  have target := IsSource.of_expression "target: vec![" [']'] (.of rfl rfl)
    (isExpression_names p.target)
  have isRead : IsSource [] read.toList [] [] := by
    unfold read
    split
    next component _ =>
      have typed := (IsSource.of_code "Vec::<" [] (.of rfl)).word (isWord_itemName component)
      exact typed.code ">::from_value(value)?" [] (.of rfl)
    next => exact .of_code "FromValue::from_value(value)?" [] (.of rfl)
  have assigned := areSource_assignment (by decide : IsWord "config") p.target dotted isRead
  have setter := IsSource.of_code "setter: Some(Setter::field(target, |config, value| \x7b"
    ['\x7d', ')', ')'] (.of rfl)
  refine .of_eq (.cons (target.code "]," [] (.of rfl))
    (.block setter (.append assigned (.code (.of rfl) .nil)) (.of rfl))) ?texts
  case texts => simp only [List.append_nil]

theorem areSource (dotted : ∀ container ∈ p.type.container?, IsDottedName container) :
    AreSource p.source p.texts := by
  have inside := p.areSource_opening.append
    (.cons p.isSource_converterLine (p.areSource_setting dotted))
  rw [p.source_eq_block]
  exact .block (.of_code "Property \x7b" ['\x7d'] (.of rfl)) inside (.of rfl)

end Property

/-! ### Categories -/

mutual

/-- The texts of a category, as its source has them: its own, those of its properties, and those of
    the categories inside it. -/
def MetaCategory.texts : MetaCategory → List String
  | { name, handle, description, properties, children } =>
    [name, handle] ++ description.toList ++ properties.flatMap Property.texts ++
      MetaCategory.textsAmong children

def MetaCategory.textsAmong : List MetaCategory → List String
  | [] => []
  | c :: rest => c.texts ++ MetaCategory.textsAmong rest

end

theorem areSource_listSource {name : String} (isWord : IsWord name) {items : List Stroke}
    {texts : List String} (areSource : AreSource items texts) :
    AreSource (listSource name items) texts := by
  unfold listSource
  split
  next isEmpty =>
    cases List.isEmpty_iff.mp isEmpty
    cases areSource 0 with
    | nil => exact .stroke ((isWord.isSource []).code ": vec![]," [] (.of rfl))
  next => exact .block ((isWord.isSource []).code ": vec![" [']'] (.of rfl)) areSource (.of rfl)

theorem areSource_names (name handle : String) (description : Option String) :
    AreSource [.line ("name: " ++ Text.quoted name ++ ".to_string(),"),
      .line ("handle: " ++ Text.quoted handle ++ ".to_string(),"),
      .line ("description: " ++ optionalLiteral description ++ ",")]
      ([name, handle] ++ description.toList) :=
  .of_eq (.cons (isSource_textEntry (.of rfl rfl) name)
    (.cons (isSource_textEntry (.of rfl rfl) handle)
      (.stroke (isSource_entry (.of rfl) (isSource_optionalLiteral description))))) rfl

mutual

/-- By induction on the tree of categories, whatever its depth. -/
theorem MetaCategory.areSource (c : MetaCategory)
    (dotted : ∀ p ∈ c.propertiesInside, ∀ container ∈ p.type.container?, IsDottedName container) :
    AreSource c.source c.texts := by
  obtain ⟨name, handle, description, properties, children⟩ := c
  rw [MetaCategory.propertiesInside, List.forall_mem_append] at dotted
  have own := areSource_listSource (by decide : IsWord "properties")
    (AreSource.flatMap fun p isProperty => Property.areSource p (dotted.2 p isProperty))
  have inner := areSource_listSource (by decide : IsWord "children")
    (MetaCategory.areSource_all children dotted.1)
  rw [MetaCategory.source, MetaCategory.texts]
  exact .block (.of_code "MetaCategory \x7b" ['\x7d'] (.of rfl))
    (((areSource_names name handle description).append own).append inner) (.of rfl)

theorem MetaCategory.areSource_all (siblings : List MetaCategory)
    (dotted : ∀ p ∈ MetaCategory.propertiesAmong siblings, ∀ container ∈ p.type.container?,
      IsDottedName container) :
    AreSource (MetaCategory.sourceAll siblings) (MetaCategory.textsAmong siblings) := by
  cases siblings with
  | nil => exact .nil
  | cons c rest =>
    rw [MetaCategory.propertiesAmong, List.forall_mem_append] at dotted
    exact (MetaCategory.areSource c dotted.1).append (MetaCategory.areSource_all rest dotted.2)

end

def Metadata.texts (m : Metadata) : List String :=
  m.converters.flatMap Converter.texts ++ MetaCategory.textsAmong m.categories ++ [m.root]

theorem Metadata.areSource {m : Metadata} (named : IsWord m.root)
    (dotted : ∀ p ∈ m.properties, ∀ container ∈ p.type.container?, IsDottedName container) :
    AreSource m.source m.texts := by
  have converters : AreSource (m.converters.flatMap Converter.source)
      (m.converters.flatMap Converter.texts) := .flatMap fun c _ => c.areSource
  have categories := MetaCategory.areSource_all m.categories dotted
  have types : IsSource []
      (if m.converters.isEmpty then "use configgen::ir::Ty;"
      else "use configgen::ir::\x7bConstruction, Ty\x7d;").toList [] [] := by
    split
    next => exact .of_code "use configgen::ir::Ty;" [] (.of rfl)
    next => exact .of_code "use configgen::ir::\x7bConstruction, Ty\x7d;" [] (.of rfl)
  have function := (((IsSource.of_code "pub fn " [] (.of rfl)).word (isWord_snakeCase m.root)).code
    "_metadata(target: &Arc<Mutex<" [')'] (.of rfl)).word named
  have result := IsSource.of_expression "Metadata \x7b root: " ['\x7d'] (.of rfl rfl)
    (.quoted m.root)
  have ended := result.code ".to_string(), categories, converters \x7d" [] (.of rfl)
  refine .of_eq (.append
    (.code (.of rfl) (.code (.of rfl) (.code (.of rfl)
      (.cons types (.code (.of rfl) (.code (.of rfl) .nil))))))
    (.block (function.code ">>) -> Metadata \x7b" ['\x7d'] (.of rfl))
      (.append (.append (.append (.code (.of rfl) .nil) converters)
        (.block (.of_code "let categories = vec![" [']'] (.of rfl)) categories (.of rfl)))
        (.stroke (s := .line _) ended)) (.of rfl))) ?texts
  case texts => simp [Metadata.texts]

/-! ## Bindings -/

/-- The texts of a binding, in the order in which its source has them. -/
def Binding.texts : Binding → List String
  | .store loader => loader.texts
  | .property loader => loader.texts
  | .metadata tree => tree.texts

def Binding.fieldTypes : Binding → List FieldType
  | .store loader => loader.fields.map fun field => field.type
  | .property loader => loader.fields.map fun field => field.type
  | .metadata tree => tree.properties.map fun p => p.type

theorem Binding.areSource {b : Binding} (named : IsWord b.root)
    (dotted : ∀ type ∈ b.fieldTypes, ∀ container ∈ type.container?, IsDottedName container) :
    AreSource b.strokes b.texts := by
  have heading : AreSource [.line ("// Generated by configgen for \x60" ++ b.root ++
      "\x60. Do not edit.")] [] := by
    have isWord : IsWord (" Generated by configgen for \x60" ++ b.root ++ "\x60. Do not edit.") :=
      ((by decide : IsWord " Generated by configgen for \x60").append named).append (by decide)
    refine .comment (by simp) (isWord '\n' (by decide))
  cases b with
  | store loader =>
    exact heading.append (loader.areSource named (List.forall_mem_map.mp dotted))
  | property loader =>
    exact heading.append (loader.areSource named (List.forall_mem_map.mp dotted))
  | metadata tree =>
    exact heading.append (tree.areSource named (List.forall_mem_map.mp dotted))

def Layout.containers (l : Layout) : List String :=
  l.usableFields.filterMap fun u => u.type.container?

/-- Every binding of a layout is for fields of the same types. -/
theorem Backend.fieldTypes_bindingOf {l : Layout} (sound : ∀ part ∈ l.parts, part.IsSound)
    (backend : Backend) :
    (backend.bindingOf l).fieldTypes = l.usableFields.map fun u => u.type := by
  cases backend with
  | store =>
    have stored := Layout.storeFields_forall₂ sound
    exact map_eq_map_of_forall₂ (stored.imp fun u field isStored => isStored.type)
  | property =>
    have read := Layout.propertyFields_forall₂ sound
    exact map_eq_map_of_forall₂ (read.imp fun u field isRead => isRead.type)
  | metadata =>
    have kept := Layout.properties_forall₂ l
    exact map_eq_map_of_forall₂ (kept.imp fun u p isKept => isKept.type)

/-- Whatever is declared besides the names of the root and of containers, the source of a binding
    cannot be broken by it. Its scanned lexemes are the lexemes of its lines, so every text is
    closed on the line where it begins; outside of texts and comments all brackets are closed in
    order; and the texts are those of the binding, in the order in which it has them. No character
    before the quotes changes how a text is read, and nothing is left that could begin a text or a
    comment of another kind. -/
theorem rendered_source_keeps_texts_quoted {root : ClassDecl} {l : Layout}
    (surveyed : root.survey.1 = some l) (named : IsDottedName root.name)
    (dotted : ∀ container ∈ l.containers, IsDottedName container) (backend : Backend) :
    ∃ scanned, lexemes (backend.bindingOf l).source = some scanned ∧
      ((backend.bindingOf l).source.toList.splitOn '\n').mapM (lexemesFrom .code) =
        some (scanned.splitOn (.mark '\n')) ∧
      closersAfter [] scanned = some [] ∧
      scanned.filterMap SourceLexeme.text? = (backend.bindingOf l).texts ∧
      (∀ before content after, scanned = before ++ .text content :: after →
        ∃ c ∈ textLeads, before.getLast? = some (.mark c)) ∧
      ∀ c ∈ delimiters, .mark c ∉ scanned := by
  have rootIsWord : IsWord (backend.bindingOf l).root := by
    rw [Backend.root_bindingOf, ClassDecl.root_of_survey surveyed]
    exact named.isWord
  have containersDotted : ∀ type ∈ (backend.bindingOf l).fieldTypes,
      ∀ container ∈ type.container?, IsDottedName container := by
    rw [Backend.fieldTypes_bindingOf (ClassDecl.survey_isSound surveyed), List.forall_mem_map]
    intro u isUsable container isContainer
    exact dotted container (List.mem_filterMap.mpr ⟨u, isUsable, isContainer⟩)
  obtain ⟨scanned, scans⟩ := (Binding.areSource rootIsWord containersDotted 0).exists_scans
  exact ⟨scanned, scans.whole, mapM_eq_some.mpr scans.lines, scans.nested, scans.texts,
    scans.behind, scans.plain⟩

/-- A root whose documentation, prefixes, defaults and names of members are made of quotes,
    brackets, backslashes, line breaks and comments. -/
def stallRoot : ClassDecl :=
  { ClassDecl.named "market.Stall" with
    markers := [.config "\"// " "\x7d\n\x7b"]
    members :=
      [.nested
        { ClassDecl.named "\"); //" with
          doc := some "say \"no\"\n\x7d"
          members :=
            [.field
              { FieldDecl.named "fruit\\" (.declared "java.util.List" [.string] []) with
                doc := some "\x27"
                markers := [.defaultString (.many ["\"]", "\n//("])] }] }] }

def stallLayout : Layout := stallRoot.survey.1.get rfl

theorem stallRoot_source_keeps_texts_quoted :
    stallRoot.survey.1 = some stallLayout ∧ IsDottedName stallRoot.name ∧
      (∀ container ∈ stallLayout.containers, IsDottedName container) ∧
      (∃ scanned, lexemes (Backend.store.bindingOf stallLayout).source = some scanned ∧
        closersAfter [] scanned = some [] ∧
        scanned.filterMap SourceLexeme.text? =
          ["\"); //", "fruit\\", "\"]", "\n//(", "\x27", "\"// \"); //.fruit\\", "\"); //",
            "\"// \"); //", "say \"no\"\n\x7d"]) ∧
      ∃ scanned, lexemes (Backend.metadata.bindingOf stallLayout).source = some scanned ∧
        closersAfter [] scanned = some [] := by
  have surveyed : stallRoot.survey.1 = some stallLayout := (Option.some_get _).symm
  have named : IsDottedName stallRoot.name := by decide +kernel
  have dotted : ∀ container ∈ stallLayout.containers, IsDottedName container := by decide +kernel
  obtain ⟨stored, storedWhole, -, storedNested, storedTexts, -⟩ :=
    rendered_source_keeps_texts_quoted surveyed named dotted .store
  obtain ⟨kept, keptWhole, -, keptNested, -⟩ :=
    rendered_source_keeps_texts_quoted surveyed named dotted .metadata
  refine ⟨surveyed, named, dotted, ⟨stored, storedWhole, storedNested, ?_⟩, kept, keptWhole,
    keptNested⟩
  rw [storedTexts]
  decide +kernel

end ConfigBinding
