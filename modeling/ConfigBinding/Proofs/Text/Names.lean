import ConfigBinding.Text.Identifier
import Mathlib.Data.List.Basic
import Mathlib.Tactic.Common

/-!
# Names joined by points

Names without points are found again in the text that they are joined to, and neither lower case nor
the form of identifiers brings points into a name.

* `eq_of_intercalate_point`: joined names tell the names apart;
* `Text.IsSign`: characters of ASCII that are neither letters nor digits;
* `Text.point_not_mem_lowercase`: lower case adds no point;
* `Text.flatten_words`, `Text.mem_of_mem_words`: words hold the letters and digits of a name, all of
  them and in their order;
* `Text.sign_not_mem_snakeCase`: snake case holds no sign but its joints;
* `Text.sign_not_mem_identifier`: nor do identifiers, but for the mark of raw ones.
-/

namespace ConfigBinding

theorem splitOn_intercalate_point {names : List String} (nonempty : names ≠ [])
    (plain : ∀ name ∈ names, '.' ∉ name.toList) :
    (String.intercalate "." names).toList.splitOn '.' = names.map String.toList := by
  have pieces : ∀ piece ∈ names.map String.toList, '.' ∉ piece := by
    intro piece member
    obtain ⟨name, isName, rfl⟩ := List.mem_map.mp member
    exact plain name isName
  have separator : ".".toList = ['.'] := rfl
  rw [String.toList_intercalate, separator]
  exact List.splitOn_intercalate '.' pieces (by simpa using nonempty)

theorem eq_of_intercalate_point {names others : List String} (nonempty : names ≠ [])
    (plain : ∀ name ∈ names, '.' ∉ name.toList) (othersNonempty : others ≠ [])
    (othersPlain : ∀ name ∈ others, '.' ∉ name.toList)
    (same : String.intercalate "." names = String.intercalate "." others) : names = others := by
  have pieces := splitOn_intercalate_point nonempty plain
  rw [same, splitOn_intercalate_point othersNonempty othersPlain] at pieces
  have injective : Function.Injective String.toList := fun _ _ => String.toList_inj.mp
  exact (injective.list_map pieces).symm

namespace Text

/-! ## Lower case -/

/-- Whether a character is one of ASCII, but neither the null character nor a letter nor a digit. -/
structure IsSign (c : Char) : Prop where
  positive : 0 < c.toNat
  ascii : c.toNat < 0x80
  notAlphanumeric : c.isAlphanum = false

instance (c : Char) : Decidable (IsSign c) :=
  decidable_of_iff (0 < c.toNat ∧ c.toNat < 0x80 ∧ c.isAlphanum = false)
    ⟨fun ⟨positive, ascii, other⟩ => ⟨positive, ascii, other⟩,
      fun ⟨positive, ascii, other⟩ => ⟨positive, ascii, other⟩⟩

/-- Where a letter beyond ASCII is lowered to a character of ASCII, that is a letter too. -/
theorem lowering_ascii :
    ∀ entry ∈ CharacterTable.lowering, (0x80 : Int) ≤ entry.1.first + entry.2 ∨
      entry.1.first = entry.1.last ∧
        (Char.ofNat (entry.1.first + entry.2).toNat).isAlphanum := by
  decide +kernel

/-- What holds of each of the ASCII characters, of which there are few. -/
theorem of_isAscii {P : Char → Prop} (each : ∀ code < 0x80, P (Char.ofNat code)) {c : Char}
    (ascii : isAscii c) : P c := by
  have own := each c.toNat (of_decide_eq_true ascii)
  rwa [Char.ofNat_toNat] at own

theorem toLower_ascii {c : Char} (ascii : isAscii c) : c.toLower = c ∨ c.toLower.isAlphanum :=
  of_isAscii (P := fun c => c.toLower = c ∨ c.toLower.isAlphanum) (by decide +kernel) ascii

theorem ofNat_ne {c : Char} (visible : 0 < c.toNat) {code : Nat} (different : code ≠ c.toNat) :
    Char.ofNat code ≠ c := by
  by_cases isValid : code.isValidChar
  · rw [Char.ofNat, dif_pos isValid]
    intro same
    have sameCode : (Char.ofNatAux code isValid).toNat = c.toNat := congrArg Char.toNat same
    exact different sameCode
  · rw [Char.ofNat, dif_neg isValid]
    intro same
    exact Nat.ne_of_lt visible (congrArg Char.toNat same)

theorem sign_not_mem_lowered {sign c : Char} (isSign : IsSign sign) (different : c ≠ sign) :
    sign ∉ lowered c := by
  unfold lowered
  split
  next ascii =>
    rw [List.mem_singleton]
    rintro rfl
    obtain same | isLetter := toLower_ascii ascii
    · exact different same.symm
    · exact absurd isLetter (by simp [isSign.notAlphanumeric])
  next =>
    split
    next =>
      have notLetter : sign ≠ 'i' := by
        rintro rfl
        exact absurd isSign (by decide)
      have notMark : sign ≠ '\u0307' := by
        rintro rfl
        exact absurd isSign (by decide)
      simp [notLetter, notMark]
    next =>
      split
      next entry distance found =>
        have contained := List.find?_some found
        simp only [Stride.contains, Bool.and_eq_true, decide_eq_true_eq] at contained
        have bound := lowering_ascii _ (List.mem_of_find?_eq_some found)
        simp only at bound
        rw [List.mem_singleton]
        obtain beyond | ⟨single, isLetter⟩ := bound
        · -- The stride begins at or below the character, so the table's bound holds for it too.
          have small := isSign.ascii
          have lowest := contained.1.1
          exact (ofNat_ne isSign.positive (by omega)).symm
        · have only : entry.first = c.toNat := by omega
          rintro rfl
          rw [only, isSign.notAlphanumeric] at isLetter
          cases isLetter
      next => simpa using different.symm

theorem point_not_mem_lowerAfter (before : List Char) {chars : List Char} (plain : '.' ∉ chars) :
    '.' ∉ lowerAfter before chars := by
  induction chars generalizing before with
  | nil => exact List.not_mem_nil
  | cons c rest inductionHypothesis =>
    rw [List.mem_cons, not_or] at plain
    simp only [lowerAfter]
    rw [List.mem_append, not_or]
    refine ⟨?_, inductionHypothesis (c :: before) plain.2⟩
    split
    next => split <;> decide
    next => exact sign_not_mem_lowered (by decide) (Ne.symm plain.1)

theorem point_not_mem_lowercase {name : String} (plain : '.' ∉ name.toList) :
    '.' ∉ (lowercase name).toList := by
  rw [lowercase, String.toList_ofList]
  exact point_not_mem_lowerAfter [] plain

theorem low_of_isDigit {c : Char} (digit : c.isDigit) : isAscii c ∧ c.toLower = c := by
  simp only [Char.isDigit, Bool.and_eq_true, decide_eq_true_eq] at digit
  have small : c.val.toNat ≤ 57 := UInt32.le_iff_toNat_le.mp digit.2
  refine ⟨?_, dif_neg fun upper => ?_⟩
  · have code : c.toNat = c.val.toNat := rfl
    rw [isAscii, decide_eq_true_eq, code]
    omega
  · have large : 65 ≤ c.val.toNat := UInt32.le_iff_toNat_le.mp upper.1
    omega

/-- Text of ASCII characters that are in lower case already is its own lower case. -/
theorem lowerAfter_of_low (before : List Char) {chars : List Char}
    (low : ∀ c ∈ chars, isAscii c ∧ c.toLower = c) : lowerAfter before chars = chars := by
  induction chars generalizing before with
  | nil => rfl
  | cons c rest inductionHypothesis =>
    obtain ⟨⟨ascii, isLow⟩, restLow⟩ := List.forall_mem_cons.mp low
    have notSigma : (c == 'Σ') = false := by
      rw [beq_eq_false_iff_ne]
      rintro rfl
      exact absurd ascii (by decide)
    simp [lowerAfter, notSigma, lowered, ascii, isLow, inductionHypothesis _ restLow]

/-! ## Words -/

theorem runs_ne_nil (chars : List Char) : runs chars ≠ [] := by
  cases chars with
  | nil => exact List.cons_ne_nil _ _
  | cons c rest =>
    rw [runs]
    split
    next => exact List.cons_ne_nil _ _
    next => split <;> exact List.cons_ne_nil _ _

theorem flatten_runs (chars : List Char) : (runs chars).flatten = chars.filter isAlphanumeric := by
  induction chars with
  | nil => rfl
  | cons c rest inductionHypothesis =>
    obtain ⟨begun, others, runsOfRest⟩ := List.exists_cons_of_ne_nil (runs_ne_nil rest)
    rw [runsOfRest, List.flatten_cons] at inductionHypothesis
    simp only [runs, runsOfRest]
    split
    next letter =>
      rw [List.flatten_cons, List.cons_append, inductionHypothesis, List.filter_cons_of_pos letter]
    next other =>
      rw [List.flatten_cons, List.flatten_cons, List.nil_append, inductionHypothesis,
        List.filter_cons_of_neg other]

/-- A run is cut into words, and nothing is lost. -/
theorem flatten_splitRun {case : WordCase} {begun chars : List Char} (nonempty : chars ≠ []) :
    (splitRun case begun chars).flatten = begun.reverse ++ chars := by
  fun_induction splitRun case begun chars with
  | case1 => exact absurd rfl nonempty
  | case2 case begun c => simp
  | case3 case begun c next rest _ inductionHypothesis =>
    rw [List.flatten_cons, inductionHypothesis (List.cons_ne_nil _ _)]
    simp
  | case4 case begun c next rest _ _ inductionHypothesis =>
    rw [List.flatten_cons, inductionHypothesis (List.cons_ne_nil _ _)]
    simp
  | case5 case begun c next rest _ _ inductionHypothesis =>
    rw [inductionHypothesis (List.cons_ne_nil _ _)]
    simp

theorem flatten_words (name : String) :
    (words name).flatten = name.toList.filter isAlphanumeric := by
  rw [words, ← flatten_runs]
  induction runs name.toList with
  | nil => rfl
  | cons run others inductionHypothesis =>
    have whole : (splitRun .none [] run).flatten = run := by
      cases run with
      | nil => rfl
      | cons c rest => exact flatten_splitRun (List.cons_ne_nil _ _)
    rw [List.flatMap_cons, List.flatten_append, whole, inductionHypothesis, List.flatten_cons]

theorem mem_of_mem_words {name : String} {word : List Char} (isWord : word ∈ words name) {c : Char}
    (isChar : c ∈ word) : c ∈ name.toList ∧ isAlphanumeric c := by
  have isKept : c ∈ (words name).flatten := List.mem_flatten.mpr ⟨word, isWord, isChar⟩
  rwa [flatten_words, List.mem_filter] at isKept

/-! ## Snake case and identifiers -/

theorem eq_or_mem_of_mem_intercalate {texts : List String} {c : Char}
    (isChar : c ∈ (String.intercalate "_" texts).toList) :
    c = '_' ∨ ∃ text ∈ texts, c ∈ text.toList := by
  induction texts with
  | nil => cases isChar
  | cons first rest inductionHypothesis =>
    cases rest with
    | nil =>
      rw [String.intercalate_singleton] at isChar
      exact .inr ⟨first, List.mem_cons_self, isChar⟩
    | cons second others =>
      rw [String.intercalate_cons_cons, String.toList_append, String.toList_append,
        List.mem_append, List.mem_append] at isChar
      obtain (isFirst | isJoint) | isLater := isChar
      · exact .inr ⟨first, List.mem_cons_self, isFirst⟩
      · exact .inl (List.mem_singleton.mp isJoint)
      · obtain isJoint | ⟨text, isText, isTextChar⟩ := inductionHypothesis isLater
        · exact .inl isJoint
        · exact .inr ⟨text, List.mem_cons_of_mem first isText, isTextChar⟩

section Signs

variable {sign : Char} (isSign : IsSign sign)

include isSign

theorem sign_not_mem_lowerWord {word : List Char} (plain : sign ∉ word) :
    sign ∉ lowerWord word := by
  fun_induction lowerWord word with
  | case1 => exact List.not_mem_nil
  | case2 =>
    rw [List.mem_singleton]
    rintro rfl
    exact absurd isSign (by decide)
  | case3 c rest _ inductionHypothesis =>
    rw [List.mem_cons, not_or] at plain
    rw [List.mem_append, not_or]
    exact ⟨sign_not_mem_lowered isSign (Ne.symm plain.1), inductionHypothesis plain.2⟩

/-- Words are made of letters and digits, so no sign is left of a name. -/
theorem sign_not_mem_snakeCase (notJoint : sign ≠ '_') (name : String) :
    sign ∉ (snakeCase name).toList := by
  have notLetter : isAlphanumeric sign = false := by
    rw [isAlphanumeric, isAscii, if_pos (decide_eq_true isSign.ascii), isSign.notAlphanumeric]
  have plainWords : ∀ word ∈ words name, sign ∉ lowerWord word := by
    intro word isWord
    apply sign_not_mem_lowerWord isSign
    intro isWordChar
    exact absurd (mem_of_mem_words isWord isWordChar).2 (by simp [notLetter])
  intro isChar
  obtain rfl | ⟨text, isText, isTextChar⟩ := eq_or_mem_of_mem_intercalate isChar
  · exact notJoint rfl
  · obtain ⟨word, isWord, rfl⟩ := List.mem_map.mp isText
    rw [String.toList_ofList] at isTextChar
    exact plainWords word isWord isTextChar

theorem sign_not_mem_identifier (notJoint : sign ≠ '_') (notRaw : sign ≠ '#') (name : String) :
    sign ∉ (identifier name).toList := by
  have plain := sign_not_mem_snakeCase isSign notJoint name
  have noLetter : sign ≠ 'r' := by
    rintro rfl
    exact absurd isSign (by decide)
  unfold identifier
  dsimp only
  split
  next => simpa [String.toList_append, plain] using notJoint
  next =>
    split
    next => simp [String.toList_append, plain, noLetter, notRaw]
    next => exact plain

end Signs

theorem point_not_mem_identifier (name : String) : '.' ∉ (identifier name).toList :=
  sign_not_mem_identifier (by decide) (by decide) (by decide) name

end Text

end ConfigBinding
