import ConfigBinding.Proofs.Text.Names

/-!
# What snake case keeps of a name

Words are never empty, and together they hold the letters and digits of a name. So the snake case of
a name begins with its first letter or digit, whatever signs stand before that, and it is empty when
there is none.

* `Text.ne_nil_of_mem_words`: there is no empty word;
* `Text.toList_snakeCase`: snake case of a name in ASCII;
* `Text.head?_snakeCase`, `Text.eq_of_mem_snakeCase`: its first character, and all of them.
-/

namespace ConfigBinding.Text

/-! ## Words -/

/-- No word is empty: only a word that was begun has a case, and a word without a case is not cut
    off. -/
theorem ne_nil_of_mem_splitRun {case : WordCase} {begun chars word : List Char}
    (hasCase : case ≠ .none → begun ≠ []) (isWord : word ∈ splitRun case begun chars) :
    word ≠ [] := by
  fun_induction splitRun case begun chars with
  | case1 => cases isWord
  | case2 case begun c =>
    cases List.mem_singleton.mp isWord
    simp
  | case3 case begun c next rest _ inductionHypothesis =>
    obtain rfl | isLater := List.mem_cons.mp isWord
    · simp
    · exact inductionHypothesis (absurd rfl) isLater
  | case4 case begun c next rest _ isCut inductionHypothesis =>
    obtain rfl | isLater := List.mem_cons.mp isWord
    · rw [ne_eq, List.reverse_eq_nil_iff]
      have upper : case ≠ .none := by
        rw [isCut.1]
        decide
      exact hasCase upper
    · exact inductionHypothesis (absurd rfl) isLater
  | case5 case begun c next rest _ _ inductionHypothesis =>
    exact inductionHypothesis (fun _ => List.cons_ne_nil _ _) isWord

theorem ne_nil_of_mem_words {name : String} {word : List Char} (isWord : word ∈ words name) :
    word ≠ [] := by
  obtain ⟨run, -, inRun⟩ := List.mem_flatMap.mp isWord
  exact ne_nil_of_mem_splitRun (absurd rfl) inRun

/-! ## Snake case of ASCII names -/

theorem lowerWord_of_ascii {word : List Char} (ascii : ∀ c ∈ word, isAscii c) :
    lowerWord word = word.map Char.toLower := by
  fun_induction lowerWord word with
  | case1 => rfl
  | case2 => exact absurd (ascii 'Σ' List.mem_cons_self) (by decide)
  | case3 c rest _ inductionHypothesis =>
    obtain ⟨first, others⟩ := List.forall_mem_cons.mp ascii
    rw [lowered, if_pos first, inductionHypothesis others]
    rfl

section Ascii

variable {name : String} (ascii : ∀ c ∈ name.toList, isAscii c)
include ascii

theorem isAscii_of_mem_words {word : List Char} (isWord : word ∈ words name) :
    ∀ c ∈ word, isAscii c :=
  fun c isChar => ascii c (mem_of_mem_words isWord isChar).1

theorem toList_snakeCase :
    (snakeCase name).toList =
      ['_'].intercalate ((words name).map fun word => word.map Char.toLower) := by
  have joint : "_".toList = ['_'] := rfl
  rw [snakeCase, String.toList_intercalate, joint, List.map_map]
  refine congrArg _ (List.map_congr_left fun word isWord => ?_)
  exact String.toList_ofList.trans (lowerWord_of_ascii (isAscii_of_mem_words ascii isWord))

/-- Snake case begins with the first letter or digit of the name, and is empty without one. -/
theorem head?_snakeCase :
    (snakeCase name).toList.head? = (name.toList.find? isAlphanumeric).map Char.toLower := by
  rw [toList_snakeCase ascii, ← List.head?_filter, ← flatten_words]
  have nonempty : ∀ word ∈ words name, word ≠ [] := fun _ => ne_nil_of_mem_words
  generalize words name = wordsOfName at nonempty ⊢
  cases wordsOfName with
  | nil => rfl
  | cons first others =>
    obtain ⟨c, rest, rfl⟩ := List.exists_cons_of_ne_nil (nonempty first List.mem_cons_self)
    cases others <;> rfl

theorem eq_of_mem_snakeCase {c : Char} (isChar : c ∈ (snakeCase name).toList) :
    c = '_' ∨ ∃ letter ∈ name.toList, isAlphanumeric letter ∧ c = letter.toLower := by
  obtain isJoint | ⟨text, isText, isTextChar⟩ := eq_or_mem_of_mem_intercalate isChar
  · exact .inl isJoint
  · obtain ⟨word, isWord, rfl⟩ := List.mem_map.mp isText
    rw [String.toList_ofList, lowerWord_of_ascii (isAscii_of_mem_words ascii isWord)] at isTextChar
    obtain ⟨letter, isLetter, rfl⟩ := List.mem_map.mp isTextChar
    obtain ⟨isNameChar, alphanumeric⟩ := mem_of_mem_words isWord isLetter
    exact .inr ⟨letter, isNameChar, alphanumeric, rfl⟩

end Ascii

end ConfigBinding.Text
