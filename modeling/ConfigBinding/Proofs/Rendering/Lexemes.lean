import ConfigBinding.Proofs.Json.Spelling
import ConfigBinding.Text.Quoted

/-!
# Lexemes of generated source

Generated source is scanned as texts in double quotes, comments up to the end of the line, and
single characters for all the rest. Inside quotes a backslash begins an escape: one letter for some
characters, two hexadecimal digits for an ASCII character, or the code point of any character in
braces; a backslash at the end of a line leaves out the white space after it.

* `TextPhase`, `lexemesFrom`, `lexemes`: scanning;
* `scan_quoted`: a quoted text is scanned as one lexeme, which is the text again;
* `scan_marks`: what holds neither quotes nor slashes is scanned character by character.
-/

namespace ConfigBinding

inductive SourceLexeme where
  /-- What a text in double quotes stands for. -/
  | text (content : List Char)
  | mark (c : Char)
  deriving DecidableEq

inductive TextPhase where
  | plain
  | escape
  /-- Before the two hexadecimal digits of an ASCII character. -/
  | firstDigit
  | secondDigit (high : Nat)
  | brace
  /-- After some hexadecimal digits of a code point. -/
  | code (count value : Nat)
  /-- In the white space after a backslash at the end of a line. -/
  | margin
  deriving DecidableEq

/-- What a character inside quotes leads to. -/
inductive TextStep where
  /-- More characters, after those read so far, latest first. -/
  | more (phase : TextPhase) (content : List Char)
  | closed (content : List Char)
  deriving DecidableEq

/-- The characters that are written as a backslash and a letter. -/
def letterEscapes : List (Char × Char) :=
  [('n', '\n'), ('r', '\r'), ('t', '\t'), ('\\', '\\'), ('0', '\x00'), ('\x27', '\x27'),
    ('\x22', '\x22')]

/-- A character inside quotes that is not part of an escape. A carriage return has to be escaped. -/
def plainStep (content : List Char) (c : Char) : Option TextStep :=
  if c = '\x22' then some (.closed content)
  else if c = '\\' then some (.more .escape content)
  else if c = '\r' then none
  else some (.more .plain (c :: content))

def TextPhase.next (content : List Char) (c : Char) : TextPhase → Option TextStep
  | .plain => plainStep content c
  | .escape =>
    if c = 'x' then some (.more .firstDigit content)
    else if c = 'u' then some (.more .brace content)
    else if c = '\n' then some (.more .margin content)
    else (letterEscapes.lookup c).map fun special => .more .plain (special :: content)
  | .firstDigit => do
    let digit ← hexValue? c
    if digit < 8 then some (.more (.secondDigit digit) content) else none
  | .secondDigit high => do
    let digit ← hexValue? c
    some (.more .plain (Char.ofNat (high * 16 + digit) :: content))
  | .brace => if c = '\x7b' then some (.more (.code 0 0) content) else none
  | .code count value =>
    if c = '\x7d' then
      if 0 < count ∧ value.isValidChar then some (.more .plain (Char.ofNat value :: content))
      else none
    else if c = '_' then if 0 < count then some (.more (.code count value) content) else none
    else do
      let digit ← hexValue? c
      if count < 6 then some (.more (.code (count + 1) (value * 16 + digit)) content) else none
  | .margin =>
    if c ∈ [' ', '\t', '\n', '\r'] then some (.more .margin content) else plainStep content c

inductive SourcePhase where
  | code
  | comment
  | text (phase : TextPhase) (content : List Char)
  deriving DecidableEq

/-- The lexemes of characters that follow others; none if a text is not closed or has an escape that
    means nothing. -/
def lexemesFrom : SourcePhase → List Char → Option (List SourceLexeme)
  | .code, [] => some []
  | .comment, [] => some []
  | .text _ _, [] => none
  | .code, c :: rest =>
    if c = '\x22' then lexemesFrom (.text .plain []) rest
    else if c = '/' ∧ rest.head? = some '/' then lexemesFrom .comment rest
    else (lexemesFrom .code rest).map (.mark c :: ·)
  | .comment, c :: rest =>
    if c = '\n' then (lexemesFrom .code rest).map (.mark c :: ·) else lexemesFrom .comment rest
  | .text phase content, c :: rest =>
    match phase.next content c with
    | none => none
    | some (.more phase content) => lexemesFrom (.text phase content) rest
    | some (.closed content) => (lexemesFrom .code rest).map (.text content.reverse :: ·)

def lexemes (source : String) : Option (List SourceLexeme) := lexemesFrom .code source.toList

/-! ## Quoted text -/

variable {content rest : List Char}

theorem lexemesFrom_more {phase after : TextPhase} {c : Char} {longer : List Char}
    (next : phase.next content c = some (.more after longer)) :
    lexemesFrom (.text phase content) (c :: rest) = lexemesFrom (.text after longer) rest := by
  rw [lexemesFrom, next]

theorem lexemesFrom_letter {letter special : Char}
    (escapes : TextPhase.escape.next content letter = some (.more .plain (special :: content))) :
    lexemesFrom (.text .plain content) (['\\', letter] ++ rest) =
      lexemesFrom (.text .plain (special :: content)) rest :=
  (lexemesFrom_more rfl).trans (lexemesFrom_more escapes)

/-- By induction on the number: the digits before the last write a smaller one. -/
theorem lexemesFrom_hexadecimal (n : Nat) (short : (Nat.toDigits 16 n).length ≤ 6)
    (rest : List Char) :
    lexemesFrom (.text (.code 0 0) content) (Nat.toDigits 16 n ++ rest) =
      lexemesFrom (.text (.code (Nat.toDigits 16 n).length n) content) rest := by
  have digit : ∀ {count value d : Nat}, d < 16 → count < 6 →
      (TextPhase.code count value).next content (Nat.digitChar d) =
        some (.more (.code (count + 1) (value * 16 + d)) content) := by
    intro count value d small few
    obtain ⟨isDigit, -⟩ := StringScan.hexValue?_digitChar small
    have noEnd : Nat.digitChar d ≠ '\x7d' := by
      intro same
      rw [same] at isDigit
      cases isDigit
    have noLine : Nat.digitChar d ≠ '_' := by
      intro same
      rw [same] at isDigit
      cases isDigit
    simp [TextPhase.next, noEnd, noLine, isDigit, few]
  induction n using Nat.strongRecOn generalizing rest with
  | ind n inductionHypothesis =>
    by_cases small : n < 16
    · rw [Nat.toDigits_of_lt_base small]
      have single : lexemesFrom (.text (.code 0 0) content) (Nat.digitChar n :: rest) =
          lexemesFrom (.text (.code (0 + 1) (0 * 16 + n)) content) rest :=
        lexemesFrom_more (digit small (by decide))
      simpa using single
    · rw [Nat.toDigits_of_base_le (by decide) (by omega)] at short ⊢
      rw [List.length_append, List.length_singleton] at short
      rw [List.append_assoc, inductionHypothesis (n / 16) (by omega) (by omega),
        List.singleton_append, lexemesFrom_more (digit (Nat.mod_lt n (by decide)) (by omega)),
        Nat.div_add_mod']
      simp

theorem lexemesFrom_codePoint (c : Char) :
    lexemesFrom (.text .plain content)
        (['\\', 'u', '\x7b'] ++ Text.hexadecimal c.toNat ++ ['\x7d'] ++ rest) =
      lexemesFrom (.text .plain (c :: content)) rest := by
  have valid : c.toNat.isValidChar := c.valid
  have small : c.toNat < 16 ^ 6 := by
    obtain below | ⟨-, below⟩ := valid <;> omega
  have short : (Nat.toDigits 16 c.toNat).length ≤ 6 :=
    (Nat.length_toDigits_le_iff (by decide) (by decide)).mpr small
  have positive : 0 < (Nat.toDigits 16 c.toNat).length := Nat.length_toDigits_pos
  have ends : (TextPhase.code (Nat.toDigits 16 c.toNat).length c.toNat).next content '\x7d' =
      some (.more .plain (c :: content)) := by
    simp [TextPhase.next, positive, valid]
  have escape : TextPhase.plain.next content '\\' = some (.more .escape content) := rfl
  have brace : TextPhase.escape.next content 'u' = some (.more .brace content) := rfl
  have code : TextPhase.brace.next content '\x7b' = some (.more (.code 0 0) content) := rfl
  simp only [List.cons_append, List.nil_append, List.append_assoc]
  rw [lexemesFrom_more escape, lexemesFrom_more brace, lexemesFrom_more code, Text.hexadecimal,
    lexemesFrom_hexadecimal _ short, lexemesFrom_more ends]

theorem lexemesFrom_quotedChar (c : Char) :
    lexemesFrom (.text .plain content) (Text.quotedChar c ++ rest) =
      lexemesFrom (.text .plain (c :: content)) rest := by
  have letter : ∀ {sign special : Char}, (c == special) = true →
      TextPhase.escape.next content sign = some (.more .plain (special :: content)) →
      lexemesFrom (.text .plain content) (['\\', sign] ++ rest) =
        lexemesFrom (.text .plain (c :: content)) rest := by
    intro sign special same escapes
    rw [beq_iff_eq.mp same]
    exact lexemesFrom_letter escapes
  rw [Text.quotedChar]
  split
  next same => exact letter same rfl
  next =>
  split
  next same => exact letter same rfl
  next =>
  split
  next same => exact letter same rfl
  next notReturn =>
  split
  next same => exact letter same rfl
  next =>
  split
  next same => exact letter same rfl
  next notQuote =>
  split
  next same => exact letter same rfl
  next notBackslash =>
  split
  next => exact lexemesFrom_codePoint c
  next =>
    have plain : TextPhase.plain.next content c = some (.more .plain (c :: content)) := by
      simp only [beq_iff_eq] at notReturn notQuote notBackslash
      simp [TextPhase.next, plainStep, notReturn, notQuote, notBackslash]
    exact lexemesFrom_more plain

theorem lexemesFrom_quoted (s : List Char) :
    lexemesFrom (.text .plain content) (s.flatMap Text.quotedChar ++ '\x22' :: rest) =
      (lexemesFrom .code rest).map (.text (content.reverse ++ s) :: ·) := by
  induction s generalizing content with
  | nil =>
    rw [List.flatMap_nil, List.nil_append, List.append_nil, lexemesFrom]
    rfl
  | cons c s inductionHypothesis =>
    rw [List.flatMap_cons, List.append_assoc, lexemesFrom_quotedChar, inductionHypothesis,
      List.reverse_cons, List.append_assoc, List.singleton_append]

/-- A quoted text is scanned as the text. -/
theorem scan_quoted (text : String) (rest : List Char) :
    lexemesFrom .code ((Text.quoted text).toList ++ rest) =
      (lexemesFrom .code rest).map (.text text.toList :: ·) := by
  have quoted : (Text.quoted text).toList ++ rest =
      '\x22' :: (text.toList.flatMap Text.quotedChar ++ '\x22' :: rest) := by
    simp [Text.quoted]
  rw [quoted, lexemesFrom, if_pos rfl, lexemesFrom_quoted, List.reverse_nil, List.nil_append]

/-! ## Other characters -/

/-- What holds neither quotes nor slashes is scanned character by character. -/
theorem scan_marks {chars : List Char} (noQuote : '\x22' ∉ chars) (noSlash : '/' ∉ chars)
    (rest : List Char) :
    lexemesFrom .code (chars ++ rest) = (lexemesFrom .code rest).map (chars.map .mark ++ ·) := by
  induction chars with
  | nil => simp
  | cons c others inductionHypothesis =>
    rw [List.mem_cons, not_or] at noQuote noSlash
    have later := inductionHypothesis noQuote.2 noSlash.2
    rw [List.cons_append, lexemesFrom, if_neg (Ne.symm noQuote.1),
      if_neg fun comment => noSlash.1 comment.1.symm, later, Option.map_map]
    rfl

end ConfigBinding
