import ConfigBinding.Proofs.Rendering.Lexemes
import ConfigBinding.Proofs.Types.Fit
import ConfigBinding.Rendering.Literal

/-!
# Literals mean their values

An expression is read as the type that it has in the host and the value that becomes of it there: a
truth value, a number after an optional minus sign, a text, a constant with a name, or a list of
expressions of one type. The literal of a value is read as the value, and has the type that the
values of its field type are read in.

* `readNumber`, `readWord`, `readAtom`, `readExpression`: reading expressions;
* `Numeral.readDecimal_bodyIn`: numerals read back in every style;
* `IsAtom`: expressions that may stand in a list, with the lexemes that they are scanned as;
* `literals_denote_their_values`: the literals of values.
-/

namespace ConfigBinding

/-! ## Reading expressions -/

/-- What constants and empty lists stand for. -/
def namedExpressions : List (String × HostType × Value) :=
  [("true", .scalar .boolean, .boolean true),
    ("false", .scalar .boolean, .boolean false),
    ("i32::MIN", .scalar .int, .int Int32.minValue),
    ("i32::MAX", .scalar .int, .int Int32.maxValue),
    ("f64::NAN", .scalar .double, .double .nan),
    ("f64::INFINITY", .scalar .double, .double (.infinite false)),
    ("f64::NEG_INFINITY", .scalar .double, .double (.infinite true)),
    ("Vec::<bool>::new()", .vector (.scalar .boolean), .array []),
    ("Vec::<i32>::new()", .vector (.scalar .int), .array []),
    ("Vec::<f64>::new()", .vector (.scalar .double), .array []),
    ("Vec::<String>::new()", .vector (.scalar .string), .array [])]

/-- Whether digits before some characters are those of a double: a point follows, with a digit after
    it if anything, or an exponent. -/
def isFractional : List Char → Bool
  | ['.'] => true
  | '.' :: c :: _ => c.isDigit
  | c :: _ => c == 'e' || c == 'E'
  | [] => false

/-- A number, given without its sign: an int if there are only digits. -/
def readNumber (negative : Bool) (chars : List Char) : Option (HostType × Value) :=
  if (chars.takeWhile Char.isDigit).isEmpty then none
  else if chars.all Char.isDigit then
    let number : Int := digitsFrom 0 chars
    (int32? (if negative then -number else number)).map fun n => (.scalar .int, .int n)
  else if isFractional (chars.dropWhile Char.isDigit) then
    (readDecimal chars).map fun d => (.scalar .double, .double (.ofDecimal negative d))
  else none

/-- A number after an optional minus sign, or a name. -/
def readWord : List Char → Option (HostType × Value)
  | '-' :: rest => readNumber true rest
  | chars =>
    match readNumber false chars with
    | some number => some number
    | none => namedExpressions.lookup (String.ofList chars)

def SourceLexeme.mark? : SourceLexeme → Option Char
  | .mark c => some c
  | .text _ => none

def readAtom : List SourceLexeme → Option (HostType × Value)
  | [.text content] => some (.scalar .string, .string (String.ofList content))
  | scanned => (scanned.mapM SourceLexeme.mark?).bind readWord

/-- A list of expressions of one type, with commas between them. -/
def readItems (scanned : List SourceLexeme) : Option (HostType × Value) := do
  let items ← (scanned.splitOn (.mark ',')).mapM fun item =>
    readAtom (item.dropWhile (· = .mark ' '))
  let (type, _) ← items.head?
  if items.all fun item => item.1 = type then
    some (.vector type, .array (items.map Prod.snd))
  else none

/-- The type of an expression and the value that becomes of it. -/
def readExpression (source : String) : Option (HostType × Value) :=
  match lexemes source with
  | some (.mark 'v' :: .mark 'e' :: .mark 'c' :: .mark '!' :: .mark '[' :: rest) =>
    if rest.getLast? = some (.mark ']') then readItems rest.dropLast else none
  | some scanned => readAtom scanned
  | none => none

/-! ## Numbers -/

theorem signed_natAbs (z : Int) : (if z < 0 then -(z.natAbs : Int) else z.natAbs) = z := by
  split <;> omega

theorem readExponent_powerChars (style : DoubleStyle) (power : Option Int) :
    readExponent (style.powerChars power) = some (power.getD 0) := by
  cases power with
  | none => rfl
  | some power =>
    have digits : (Nat.toDigits 10 power.natAbs).isEmpty = false ∧
        (Nat.toDigits 10 power.natAbs).all Char.isDigit = true := by
      simp [all_isDigit_toDigits, Nat.toDigits_ne_nil]
    have sign : readSign ((if power < 0 then ['-'] else if style.plusSign then ['+'] else []) ++
        Nat.toDigits 10 power.natAbs) = (decide (power < 0), Nat.toDigits 10 power.natAbs) := by
      by_cases negative : power < 0
      · simp [negative, readSign]
      · by_cases plus : style.plusSign = true
        · simp [negative, plus, readSign]
        · simpa [negative, plus] using readSign_toDigits power.natAbs
    simp only [DoubleStyle.powerChars, readExponent, sign, digits, digitsFrom_toDigits,
      decide_eq_true_eq, signed_natAbs]
    rfl

theorem head?_powerChars (style : DoubleStyle) (power : Option Int) :
    ∀ c ∈ (style.powerChars power).head?, c = 'e' := by
  intro c isFirst
  cases power with
  | none => cases isFirst
  | some power => exact (Option.some.inj isFirst).symm

/-- Digits are told from what follows them. -/
theorem takeWhile_isDigit {digits rest : List Char} (all : digits.all Char.isDigit)
    (ends : ∀ c ∈ rest.head?, c.isDigit = false) :
    (digits ++ rest).takeWhile Char.isDigit = digits ∧
      (digits ++ rest).dropWhile Char.isDigit = rest := by
  have allDigits := List.all_eq_true.mp all
  rw [List.takeWhile_append_of_pos allDigits, List.dropWhile_append_of_pos allDigits]
  cases rest with
  | nil => simp
  | cons c rest => simp [ends c rfl]

namespace Numeral

variable {n : Numeral} (wellFormed : n.IsWellFormed) (style : DoubleStyle)

/-- What stands after the whole digits of a numeral. -/
def afterWhole (n : Numeral) (style : DoubleStyle) : List Char :=
  fractionChars n.fraction ++ style.powerChars n.power

theorem bodyIn_eq (n : Numeral) (style : DoubleStyle) :
    n.bodyIn style = n.first :: n.whole ++ n.afterWhole style := rfl

theorem head?_afterWhole (n : Numeral) (style : DoubleStyle) :
    ∀ c ∈ (n.afterWhole style).head?, c = '.' ∨ c = 'e' := by
  intro c isFirst
  cases fraction : n.fraction with
  | nil =>
    simp only [afterWhole, fractionChars, fraction] at isFirst
    exact .inr (head?_powerChars style n.power c isFirst)
  | cons digit rest =>
    simp only [afterWhole, fractionChars, fraction] at isFirst
    exact .inl (Option.some.inj isFirst).symm

include wellFormed

theorem whole_bodyIn :
    (n.bodyIn style).takeWhile Char.isDigit = n.first :: n.whole ∧
      (n.bodyIn style).dropWhile Char.isDigit = n.afterWhole style := by
  rw [bodyIn_eq]
  apply takeWhile_isDigit
  · rw [List.all_cons, wellFormed.first, wellFormed.whole]
    rfl
  · intro c isFirst
    obtain rfl | rfl := n.head?_afterWhole style c isFirst <;> rfl

theorem readDecimal_bodyIn : readDecimal (n.bodyIn style) = some n.decimal := by
  obtain ⟨whole, after⟩ := n.whole_bodyIn wellFormed style
  have power := readExponent_powerChars style n.power
  have first := head?_powerChars style n.power
  unfold readDecimal
  rw [whole, after]
  cases fraction : n.fraction with
  | nil =>
    have noFraction : n.afterWhole style = style.powerChars n.power := by
      simp [afterWhole, fraction, fractionChars]
    rw [noFraction]
    split
    next parts =>
      split at parts
      next rest isPower =>
        rw [isPower] at first
        exact absurd (first '.' rfl) (by decide)
      next =>
        cases parts
        simp [power, decimal, fraction, digitsFrom]
  | cons digit rest =>
    have isFraction : n.afterWhole style =
        '.' :: ((digit :: rest) ++ style.powerChars n.power) := by
      simp [afterWhole, fraction, fractionChars]
    have allDigits := wellFormed.fraction
    rw [fraction] at allDigits
    obtain ⟨taken, dropped⟩ := takeWhile_isDigit allDigits fun c isFirst => by
      rw [first c isFirst]
      rfl
    rw [isFraction]
    simp only [taken, dropped]
    simp [power, decimal, fraction, digitsFrom]

theorem isFractional_afterWhole (isReal : n.fraction ≠ [] ∨ n.power.isSome) :
    isFractional (n.afterWhole style) := by
  have allDigits := wellFormed.fraction
  cases fraction : n.fraction with
  | nil =>
    obtain ⟨power, isPower⟩ := Option.isSome_iff_exists.mp (isReal.resolve_left (absurd fraction))
    simp [afterWhole, fraction, fractionChars, isPower, DoubleStyle.powerChars, isFractional]
  | cons digit rest =>
    rw [fraction, List.all_cons, Bool.and_eq_true] at allDigits
    have isFraction : n.afterWhole style = '.' :: digit :: (rest ++ style.powerChars n.power) := by
      simp [afterWhole, fraction, fractionChars]
    rw [isFraction]
    exact allDigits.1

theorem not_all_isDigit_bodyIn (isReal : n.fraction ≠ [] ∨ n.power.isSome) :
    (n.bodyIn style).all Char.isDigit = false := by
  have fractional := n.isFractional_afterWhole wellFormed style isReal
  rw [bodyIn_eq, List.all_append, Bool.and_eq_false_iff]
  right
  cases after : n.afterWhole style with
  | nil =>
    rw [after] at fractional
    cases fractional
  | cons c rest =>
    have noDigit : c.isDigit = false := by
      obtain rfl | rfl := n.head?_afterWhole style c (by rw [after]; rfl) <;> rfl
    rw [List.all_cons, noDigit, Bool.false_and]

end Numeral

/-- A finite double reads back from its digits. -/
theorem readNumber_magnitude (negative : Bool) (m : Magnitude) :
    readNumber negative (DoubleStyle.source.magnitude m) =
      some (.scalar .double, .double (.finite negative m)) := by
  obtain ⟨n, rfl, writes⟩ := DoubleStyle.source.exists_writes_magnitude negative m
  obtain ⟨whole, after⟩ := n.whole_bodyIn writes.wellFormed .source
  have noInt := n.not_all_isDigit_bodyIn writes.wellFormed .source writes.isReal
  have fractional := n.isFractional_afterWhole writes.wellFormed .source writes.isReal
  have value : Double.ofDecimal n.negative n.decimal = .finite n.negative m := by
    rw [Double.ofDecimal, writes.value, m.nearest_shortest]
    rfl
  rw [← writes.body, readNumber, whole, after, noInt, fractional,
    n.readDecimal_bodyIn writes.wellFormed, Option.map_some, value]
  rfl

theorem DoubleStyle.exists_readDecimal_magnitude (style : DoubleStyle) (m : Magnitude) :
    ∃ decimal, readDecimal (style.magnitude m) = some decimal := by
  obtain ⟨n, -, writes⟩ := style.exists_writes_magnitude false m
  rw [← writes.body]
  exact ⟨_, n.readDecimal_bodyIn writes.wellFormed style⟩

/-- A whole number within 32 bits reads back from its digits. -/
theorem readNumber_toDigits (n : Int32) :
    readNumber (n.toInt < 0) (Nat.toDigits 10 n.toInt.natAbs) = some (.scalar .int, .int n) := by
  have all := all_isDigit_toDigits n.toInt.natAbs
  have whole : ((Nat.toDigits 10 n.toInt.natAbs).takeWhile Char.isDigit).isEmpty = false := by
    rw [List.takeWhile_eq_self_iff.mpr (List.all_eq_true.mp all), List.isEmpty_eq_false_iff]
    exact Nat.toDigits_ne_nil
  simp only [readNumber, whole, all, digitsFrom_toDigits, decide_eq_true_eq, signed_natAbs,
    int32?_toInt]
  rfl

theorem exists_digit_of_readNumber {negative : Bool} {chars : List Char}
    {number : HostType × Value} (reads : readNumber negative chars = some number) :
    ∃ digit rest, chars = digit :: rest ∧ digit.isDigit := by
  cases chars with
  | nil => cases reads
  | cons c rest =>
    by_cases isDigit : c.isDigit
    · exact ⟨c, rest, rfl, isDigit⟩
    · rw [readNumber, List.takeWhile_cons_of_neg isDigit, List.isEmpty_nil, if_pos rfl] at reads
      cases reads

/-- A number with its sign is a word. -/
theorem readWord_number {negative : Bool} {chars : List Char} {number : HostType × Value}
    (reads : readNumber negative chars = some number) :
    readWord ((if negative then ['-'] else []) ++ chars) = some number := by
  cases negative with
  | true => exact reads
  | false =>
    rw [if_neg Bool.false_ne_true, List.nil_append, readWord.eq_def]
    split
    next =>
      -- A number starts with a digit, so that it is not taken for one with a sign.
      obtain ⟨_, _, same, isDigit⟩ := exists_digit_of_readNumber reads
      cases same
      cases isDigit
    next => rw [reads]

/-! ## Expressions that may be items -/

theorem SourceLexeme.mapM_mark? (chars : List Char) :
    (chars.map mark).mapM mark? = some chars := by
  rw [mapM_eq_some, List.forall₂_map_left_iff, List.forall₂_same]
  exact fun c _ => rfl

/-- The characters that stand between expressions, or that other lexemes or lists begin with. -/
def separators : List Char := ['\x22', '/', ',', '!']

/-- Whether a text is scanned as lexemes that may stand in a list, and these are read as a value. -/
structure IsAtom (text : String) (scanned : List SourceLexeme) (type : HostType) (value : Value) :
    Prop where
  scan : ∀ rest, lexemesFrom .code (text.toList ++ rest) =
    (lexemesFrom .code rest).map (scanned ++ ·)
  plain : ∀ c ∈ [',', '!'], .mark c ∉ scanned
  first : scanned.head? ≠ some (.mark ' ')
  read : readAtom scanned = some (type, value)

namespace IsAtom

variable {text : String} {scanned : List SourceLexeme} {type : HostType} {value : Value}

theorem readExpression (atom : IsAtom text scanned type value) :
    readExpression text = some (type, value) := by
  have all : lexemes text = some scanned := by
    have whole := atom.scan []
    rw [List.append_nil] at whole
    rw [lexemes, whole]
    simp [lexemesFrom]
  rw [ConfigBinding.readExpression, all]
  split
  next rest isList =>
    cases isList
    exact absurd (by simp) (atom.plain '!' (by simp))
  next same =>
    cases same
    exact atom.read
  next none => cases none

theorem dropWhile (atom : IsAtom text scanned type value) :
    scanned.dropWhile (· = .mark ' ') = scanned := by
  cases scanned with
  | nil => rfl
  | cons first rest =>
    have noBlank : first ≠ .mark ' ' := fun same => atom.first (congrArg some same)
    rw [List.dropWhile_cons_of_neg (by simpa using noBlank)]

theorem quoted (text : String) :
    IsAtom (Text.quoted text) [.text text.toList] (.scalar .string) (.string text) where
  scan := scan_quoted text
  plain c _ isMark := by cases List.mem_singleton.mp isMark
  first := by simp
  read := by
    rw [readAtom, String.ofList_toList]

theorem word (plain : ∀ c ∈ separators, c ∉ text.toList)
    (first : text.toList.head? ≠ some ' ') (reads : readWord text.toList = some (type, value)) :
    IsAtom text (text.toList.map .mark) type value where
  scan := scan_marks (plain _ (by simp [separators])) (plain _ (by simp [separators]))
  plain c isSeparator isMark := by
    obtain ⟨d, isCharacter, same⟩ := List.mem_map.mp isMark
    cases same
    exact plain c (List.mem_cons_of_mem _ (List.mem_cons_of_mem _ isSeparator)) isCharacter
  first := by
    rw [List.head?_map]
    intro same
    obtain ⟨c, isFirst, isBlank⟩ := Option.map_eq_some_iff.mp same
    cases isBlank
    exact first isFirst
  read := by
    unfold readAtom
    split
    next content isText =>
      have noMark : SourceLexeme.text content ∉ text.toList.map .mark := by simp
      exact absurd (by simp [isText]) noMark
    next => rw [SourceLexeme.mapM_mark?, Option.bind_some, reads]

theorem constant (plain : separators.all fun c => !text.toList.contains c)
    (first : text.toList.head? ≠ some ' ') (reads : readWord text.toList = some (type, value)) :
    IsAtom text (text.toList.map .mark) type value := by
  refine word (fun c isSeparator => ?_) first reads
  simpa using List.all_eq_true.mp plain c isSeparator

theorem number {negative : Bool} {chars : List Char}
    (isText : text.toList = (if negative then ['-'] else []) ++ chars)
    (reads : readNumber negative chars = some (type, value))
    (numeral : ∀ c, IsNoNumeral c → c ∉ chars) :
    IsAtom text (text.toList.map .mark) type value := by
  have noNumeral : ∀ c ∈ separators, IsNoNumeral c ∧ c ≠ '-' := by
    simp only [separators, List.forall_mem_cons, List.not_mem_nil, IsEmpty.forall_iff,
      implies_true, and_true]
    unfold IsNoNumeral
    decide
  obtain ⟨digit, rest, rfl, isDigit⟩ := exists_digit_of_readNumber reads
  apply word
  · intro c isSeparator
    obtain ⟨other, noSign⟩ := noNumeral c isSeparator
    rw [isText, List.mem_append, not_or]
    refine ⟨?_, numeral c other⟩
    split <;> simp [noSign]
  · rw [isText]
    have noBlank : digit ≠ ' ' := by
      rintro rfl
      cases isDigit
    split <;> simp [noBlank]
  · rw [isText]
    exact readWord_number reads

theorem boolean (value : Bool) :
    IsAtom (if value then "true" else "false")
      ((if value then "true" else "false").toList.map .mark) (.scalar .boolean)
      (.boolean value) := by
  cases value with
  | false => exact constant (by decide) (by decide) rfl
  | true => exact constant (by decide) (by decide) rfl

theorem int (n : Int32) :
    IsAtom (intLiteral n) ((intLiteral n).toList.map .mark) (.scalar .int) (.int n) := by
  unfold intLiteral
  split
  next least =>
    rw [least]
    exact constant (by decide) (by decide) rfl
  next =>
  split
  next greatest =>
    rw [greatest]
    exact constant (by decide) (by decide) rfl
  next =>
    have isText : (toString n.toInt).toList =
        (if decide (n.toInt < 0) then ['-'] else []) ++ Nat.toDigits 10 n.toInt.natAbs := by
      rw [Int.toList_toString]
      simp
    refine number isText (readNumber_toDigits n) ?_
    exact fun c other => not_mem_of_all_isDigit (all_isDigit_toDigits _) other

theorem double (d : Double) :
    IsAtom (doubleLiteral d) ((doubleLiteral d).toList.map .mark) (.scalar .double)
      (.double d) := by
  cases d with
  | nan => exact constant (by decide) (by decide) rfl
  | infinite negative =>
    cases negative with
    | false => exact constant (by decide) (by decide) rfl
    | true => exact constant (by decide) (by decide) rfl
  | finite negative m =>
    have isText : (doubleLiteral (.finite negative m)).toList =
        (if negative then ['-'] else []) ++ DoubleStyle.source.magnitude m := String.toList_ofList
    refine number isText (readNumber_magnitude negative m) ?_
    obtain ⟨decimal, reads⟩ := DoubleStyle.source.exists_readDecimal_magnitude m
    exact fun c other => not_mem_of_readDecimal reads other

end IsAtom

def Value.scanned : Value → List SourceLexeme
  | .string text => [.text text.toList]
  | value => (value.literal .boolean).toList.map .mark

/-- The literal of a scalar does not depend on the type that it is written for. -/
theorem ScalarType.isAtom_literal {scalar : ScalarType} {value : Value}
    (conforms : value.conforms scalar.toFieldType) (type : FieldType) :
    IsAtom (value.literal type) value.scanned (.scalar scalar) value := by
  cases scalar with
  | boolean =>
    cases value with
    | boolean value => exact .boolean value
    | int | double | string | array | collection => cases conforms
  | int =>
    cases value with
    | int n => exact .int n
    | boolean | double | string | array | collection => cases conforms
  | double =>
    cases value with
    | double d => exact .double d
    | boolean | int | string | array | collection => cases conforms
  | string =>
    cases value with
    | string text => exact .quoted text
    | boolean | int | double | array | collection => cases conforms

/-! ## Lists -/

section Items

variable {scalar : ScalarType} {items : List Value}

/-- The items of a list are scanned one after the other, each after the first behind a comma. -/
theorem Value.scan_restLiteral
    (conform : ∀ item ∈ items, item.conforms scalar.toFieldType) (rest : List Char) :
    lexemesFrom .code ((Value.restLiteral scalar.toFieldType items).toList ++ rest) =
      (lexemesFrom .code rest).map
        ((items.flatMap fun item => .mark ',' :: .mark ' ' :: item.scanned) ++ ·) := by
  induction items with
  | nil => simp [Value.restLiteral]
  | cons item others inductionHypothesis =>
    obtain ⟨itemConforms, othersConform⟩ := List.forall_mem_cons.mp conform
    have atom := ScalarType.isAtom_literal itemConforms scalar.toFieldType
    have text : (Value.restLiteral scalar.toFieldType (item :: others)).toList ++ rest =
        [',', ' '] ++ ((item.literal scalar.toFieldType).toList ++
          ((Value.restLiteral scalar.toFieldType others).toList ++ rest)) := by
      simp [Value.restLiteral]
    rw [text, scan_marks (by decide) (by decide), atom.scan, inductionHypothesis othersConform]
    simp [Option.map_map, Function.comp_def]

theorem intercalate_eq_flatMap {α : Type} (separator : α) (first : List α)
    (pieces : List (List α)) :
    List.intercalate [separator] (first :: pieces) = first ++ pieces.flatMap (separator :: ·) := by
  induction pieces generalizing first with
  | nil => simp
  | cons piece rest inductionHypothesis =>
    rw [List.intercalate_cons_cons, inductionHypothesis]
    simp

theorem readItems_scanned {first : Value} (firstConforms : first.conforms scalar.toFieldType)
    (conform : ∀ item ∈ items, item.conforms scalar.toFieldType) :
    readItems (first.scanned ++ items.flatMap fun item => .mark ',' :: .mark ' ' :: item.scanned) =
      some (.vector (.scalar scalar), .array (first :: items)) := by
  have atom := fun {item : Value} (conforms : item.conforms scalar.toFieldType) =>
    ScalarType.isAtom_literal conforms scalar.toFieldType
  have joined : (first.scanned ++ items.flatMap fun item =>
      SourceLexeme.mark ',' :: .mark ' ' :: item.scanned) =
        List.intercalate [.mark ',']
          (first.scanned :: items.map fun item => .mark ' ' :: item.scanned) := by
    rw [intercalate_eq_flatMap, List.flatMap_map]
  have pieces : ∀ piece ∈ first.scanned :: items.map fun item => .mark ' ' :: item.scanned,
      SourceLexeme.mark ',' ∉ piece := by
    rw [List.forall_mem_cons, List.forall_mem_map]
    refine ⟨(atom firstConforms).plain _ (by simp), fun item isItem => ?_⟩
    rw [List.mem_cons, not_or]
    exact ⟨by decide, (atom (conform item isItem)).plain _ (by simp)⟩
  have read : (first.scanned :: items.map fun item => .mark ' ' :: item.scanned).mapM
      (fun item => readAtom (item.dropWhile (· = .mark ' '))) =
        some ((first :: items).map fun item => (HostType.scalar scalar, item)) := by
    have starts : ∀ {item : Value}, item.conforms scalar.toFieldType →
        readAtom (item.scanned.dropWhile (· = .mark ' ')) = some (.scalar scalar, item) := by
      intro item conforms
      rw [(atom conforms).dropWhile, (atom conforms).read]
    rw [mapM_eq_some, List.map_cons, List.forall₂_cons, List.forall₂_map_left_iff,
      List.forall₂_map_right_iff, List.forall₂_same]
    refine ⟨starts firstConforms, fun item isItem => ?_⟩
    rw [List.dropWhile_cons_of_pos (by simp)]
    exact starts (conform item isItem)
  rw [joined, readItems, List.splitOn_intercalate _ pieces (List.cons_ne_nil _ _), read]
  simp

/-- The literal of a list, which names the type of its items if it has none. -/
theorem readExpression_listLiteral
    (conform : ∀ item ∈ items, item.conforms scalar.toFieldType) :
    readExpression (Value.listLiteral scalar.toFieldType items) =
      some (.vector (.scalar scalar), .array items) := by
  cases items with
  | nil =>
    cases scalar with
    | boolean => exact IsAtom.readExpression (.constant (by decide) (by decide) rfl)
    | int => exact IsAtom.readExpression (.constant (by decide) (by decide) rfl)
    | double => exact IsAtom.readExpression (.constant (by decide) (by decide) rfl)
    | string => exact IsAtom.readExpression (.constant (by decide) (by decide) rfl)
  | cons first rest =>
    obtain ⟨firstConforms, restConform⟩ := List.forall_mem_cons.mp conform
    have atom := ScalarType.isAtom_literal firstConforms scalar.toFieldType
    have text : (Value.listLiteral scalar.toFieldType (first :: rest)).toList =
        "vec![".toList ++ ((first.literal scalar.toFieldType).toList ++
          ((Value.restLiteral scalar.toFieldType rest).toList ++ [']'])) := by
      simp [Value.listLiteral]
    have scanned : lexemes (Value.listLiteral scalar.toFieldType (first :: rest)) =
        some (.mark 'v' :: .mark 'e' :: .mark 'c' :: .mark '!' :: .mark '[' ::
          ((first.scanned ++ rest.flatMap fun item => .mark ',' :: .mark ' ' :: item.scanned) ++
            [.mark ']'])) := by
      rw [lexemes, text, scan_marks (by decide) (by decide), atom.scan,
        Value.scan_restLiteral restConform]
      simp [lexemesFrom]
    rw [readExpression, scanned]
    simp only [List.getLast?_concat, List.dropLast_concat, if_true,
      readItems_scanned firstConforms restConform]

end Items

/-- The literal of a value in the shape of a usable type is an expression of the host type that
    values of this type are read in, and what becomes of it is the value. -/
theorem literals_denote_their_values {type : FieldType} {value : Value}
    (valid : type.validate = .ok ()) (conforms : value.conforms type) :
    ∃ host, type.hostType? = some host ∧
      readExpression (value.literal type) = some (host, value) := by
  obtain ⟨accessor, readable⟩ := FieldType.accessor?_of_validate valid
  refine ⟨accessor.hostType, by rw [FieldType.hostType?, readable]; rfl, ?_⟩
  cases type with
  | boolean | int | double | string =>
    simp only [FieldType.accessor?, Option.map_eq_some_iff] at readable
    obtain ⟨scalar, isScalar, rfl⟩ := readable
    rw [← ScalarType.scalar?_toFieldType isScalar] at conforms
    exact (ScalarType.isAtom_literal conforms _).readExpression
  | array component | collection container component construction =>
    simp only [FieldType.accessor?, Option.map_eq_some_iff] at readable
    obtain ⟨scalar, isScalar, rfl⟩ := readable
    obtain rfl := ScalarType.scalar?_toFieldType isScalar
    cases value with
    | array items => exact readExpression_listLiteral (List.all_eq_true.mp conforms)
    | boolean | int | double | string | collection => cases conforms
  | unknown name => cases readable

/-- Texts with quotes, a backslash, a line feed, a control character, an accent that combines with
    what stands before it, and what looks like the end of a list. -/
def awkwardTexts : Value :=
  .array [.string "say \"no\", \\ or\n", .string "\x01e\u0301", .string ", \"]//", .string ""]

/-- A negative zero, no number, and a whole number with an exponent. -/
def awkwardDoubles : Value :=
  .array [.double (.finite true .zero), .double .nan, .double (.ofInt (10 ^ 16))]

theorem awkwardTexts_read_back :
    FieldType.validate (.collection "java.util.List" .string .append) = .ok () ∧
      awkwardTexts.conforms (.collection "java.util.List" .string .append) ∧
      (∃ host, FieldType.hostType? (.collection "java.util.List" .string .append) = some host ∧
        readExpression (awkwardTexts.literal (.collection "java.util.List" .string .append)) =
          some (host, awkwardTexts)) ∧
      (∃ host, FieldType.hostType? (.array .double) = some host ∧
        readExpression "vec![-0.0, f64::NAN, 1e16]" = some (host, awkwardDoubles)) ∧
      ∃ host, FieldType.hostType? (.array .int) = some host ∧
        readExpression "Vec::<i32>::new()" = some (host, .array []) := by
  have texts : awkwardTexts.conforms (.collection "java.util.List" .string .append) := by
    decide +kernel
  have written : awkwardDoubles.literal (.array .double) = "vec![-0.0, f64::NAN, 1e16]" := by
    decide +kernel
  have doubles : awkwardDoubles.conforms (.array .double) := rfl
  have readDoubles := literals_denote_their_values rfl doubles
  rw [written] at readDoubles
  have none : (Value.array []).conforms (.array .int) := rfl
  exact ⟨rfl, texts, literals_denote_their_values rfl texts, readDoubles,
    literals_denote_their_values rfl none⟩

end ConfigBinding
