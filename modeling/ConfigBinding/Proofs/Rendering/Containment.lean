import ConfigBinding.Proofs.Lists
import ConfigBinding.Proofs.Rendering.Lexemes
import ConfigBinding.Proofs.Rendering.Pages

/-!
# Source that keeps texts inside their quotes

Source that is put together from comments, from quoted texts behind opening brackets or blanks, and
from code without quotes and slashes is scanned as it was put together: the texts are found again,
each on the line where it begins, and what brackets they hold does not count.

* `closersAfter`: the closing brackets that are expected after some lexemes;
* `IsSource`: how source is put together, with the brackets that it leaves open and its texts;
* `Scans`, `IsSource.exists_scans`: what is found when it is scanned;
* `IsExpression`: what may stand behind an opening bracket or a blank;
* `IsSource.code`, `IsSource.word`, `IsSource.part`, `IsSource.expression`: longer and longer lines;
* `AreSource`: lines that leave no bracket open.
-/

namespace ConfigBinding

/-! ## Brackets -/

def brackets : List (Char × Char) := [('(', ')'), ('[', ']'), ('\x7b', '\x7d')]

/-- The closing brackets that are expected after a character, the next one first; none if it is a
    closing bracket that is not the next one. -/
def closersBehind (expected : List Char) (c : Char) : Option (List Char) :=
  match brackets.lookup c with
  | some closing => some (closing :: expected)
  | none =>
    if c ∈ brackets.map Prod.snd then
      if expected.head? = some c then some expected.tail else none
    else some expected

/-- The closing brackets that are expected after a lexeme. Brackets in texts do not count. -/
def SourceLexeme.closers (expected : List Char) : SourceLexeme → Option (List Char)
  | .text _ => some expected
  | .mark c => closersBehind expected c

def closersAfter (expected : List Char) (scanned : List SourceLexeme) : Option (List Char) :=
  scanned.foldlM SourceLexeme.closers expected

def SourceLexeme.text? : SourceLexeme → Option String
  | .text content => some (String.ofList content)
  | .mark _ => none

theorem closersBehind_append {expected left : List Char} {c : Char}
    (step : closersBehind expected c = some left) (outer : List Char) :
    closersBehind (expected ++ outer) c = some (left ++ outer) := by
  unfold closersBehind at step ⊢
  cases opens : brackets.lookup c with
  | some closing =>
    rw [opens] at step
    cases step
    rfl
  | none =>
    rw [opens] at step
    dsimp only at step ⊢
    split at step
    next isClosing =>
      split at step
      next isNext =>
        obtain ⟨rest, rfl⟩ := List.head?_eq_some_iff.mp isNext
        cases step
        rw [if_pos isClosing, List.cons_append, List.head?_cons, if_pos rfl]
        rfl
      next => cases step
    next isOther =>
      cases step
      rw [if_neg isOther]

/-! ## Putting source together -/

/-- The characters that begin texts and comments of any kind. -/
def delimiters : List Char := ['\x22', '\x27', '/']

/-- The characters that texts stand behind. No letter comes before the quotes, which would change
    how the text is read. -/
def textLeads : List Char := ['(', '[', ' ']

/-- Source that starts where some closing brackets are expected, leaves others to be expected, and
    holds some texts. -/
inductive IsSource : List Char → List Char → List Char → List String → Prop where
  | nil {expected : List Char} : IsSource expected [] expected []
  | mark {c : Char} {expected between source left : List Char} {texts : List String}
      (plain : c ∉ delimiters) (step : closersBehind expected c = some between)
      (rest : IsSource between source left texts) : IsSource expected (c :: source) left texts
  | text {c : Char} {expected between source left : List Char} {texts : List String}
      (isLead : c ∈ textLeads) (step : closersBehind expected c = some between)
      (text : String) (rest : IsSource between source left texts) :
      IsSource expected (c :: ((Text.quoted text).toList ++ source)) left (text :: texts)
  | comment {comment expected source left : List Char} {texts : List String}
      (oneLine : '\n' ∉ comment) (rest : IsSource expected ('\n' :: source) left texts) :
      IsSource expected ('/' :: '/' :: (comment ++ '\n' :: source)) left texts

variable {expected between left source more : List Char} {texts others : List String}

theorem IsSource.append (first : IsSource expected source between texts)
    (second : IsSource between more left others) :
    IsSource expected (source ++ more) left (texts ++ others) := by
  induction first with
  | nil => exact second
  | mark plain step _ inductionHypothesis => exact .mark plain step (inductionHypothesis second)
  | text isLead step text _ inductionHypothesis =>
    rw [List.cons_append, List.append_assoc]
    exact .text isLead step text (inductionHypothesis second)
  | @comment comment _ _ _ _ oneLine _ inductionHypothesis =>
    have rest := inductionHypothesis second
    rw [List.cons_append, List.cons_append, List.append_assoc, List.cons_append]
    exact .comment oneLine rest

/-- Source does not look at the brackets around it. -/
theorem IsSource.inside (source : IsSource expected more left texts) (outer : List Char) :
    IsSource (expected ++ outer) more (left ++ outer) texts := by
  induction source with
  | nil => exact .nil
  | mark plain step _ inductionHypothesis =>
    exact .mark plain (closersBehind_append step outer) inductionHypothesis
  | text isLead step text _ inductionHypothesis =>
    exact .text isLead (closersBehind_append step outer) text inductionHypothesis
  | comment oneLine _ inductionHypothesis => exact .comment oneLine inductionHypothesis

/-! ## Scanning it again -/

/-- What is found in source that starts where some closing brackets are expected. -/
structure Scans (expected source left : List Char) (texts : List String)
    (scanned : List SourceLexeme) : Prop where
  whole : lexemesFrom .code source = some scanned
  /-- Each line is scanned for itself as what it is in the whole. -/
  lines : List.Forall₂ (fun line part => lexemesFrom .code line = some part)
    (source.splitOn '\n') (scanned.splitOn (.mark '\n'))
  nested : closersAfter expected scanned = some left
  texts : scanned.filterMap SourceLexeme.text? = texts
  behind : ∀ before content after, scanned = before ++ .text content :: after →
    ∃ c ∈ textLeads, before.getLast? = some (.mark c)
  plain : ∀ c ∈ delimiters, .mark c ∉ scanned

theorem lexemesFrom_mark {c : Char} (plain : c ∉ delimiters) (rest : List Char) :
    lexemesFrom .code (c :: rest) = (lexemesFrom .code rest).map (.mark c :: ·) := by
  simp only [delimiters, List.mem_cons, List.not_mem_nil, or_false, not_or] at plain
  rw [lexemesFrom, if_neg plain.1, if_neg fun comment => plain.2.2 comment.1]

theorem lexemesFrom_comment {comment : List Char} (oneLine : '\n' ∉ comment) (rest : List Char)
    (ends : ∀ c ∈ rest.head?, c = '\n') :
    lexemesFrom .code ('/' :: '/' :: (comment ++ rest)) = lexemesFrom .code rest := by
  have skipped : ∀ chars, '\n' ∉ chars →
      lexemesFrom .comment (chars ++ rest) = lexemesFrom .code rest := by
    intro chars plain
    induction chars with
    | nil =>
      cases rest with
      | nil => simp [lexemesFrom]
      | cons c later =>
        obtain rfl := ends c rfl
        rw [List.nil_append, lexemesFrom_mark (by decide), lexemesFrom, if_pos rfl]
    | cons c later inductionHypothesis =>
      rw [List.mem_cons, not_or] at plain
      rw [List.cons_append, lexemesFrom, if_neg (Ne.symm plain.1), inductionHypothesis plain.2]
  rw [lexemesFrom, if_neg (by decide), if_pos ⟨rfl, rfl⟩]
  exact skipped ('/' :: comment) (by simpa using oneLine)

theorem lineBreak_not_mem_hexadecimal (n : Nat) : '\n' ∉ Text.hexadecimal n := by
  have digit : ∀ {d : Nat}, d < 16 → '\n' ≠ Nat.digitChar d := by
    intro d small same
    obtain ⟨isDigit, -⟩ := StringScan.hexValue?_digitChar small
    rw [← same] at isDigit
    cases isDigit
  unfold Text.hexadecimal
  induction n using Nat.strongRecOn with
  | ind n inductionHypothesis =>
    by_cases small : n < 16
    · rw [Nat.toDigits_of_lt_base small, List.mem_singleton]
      exact digit small
    · rw [Nat.toDigits_of_base_le (by decide) (by omega), List.mem_append, List.mem_singleton,
        not_or]
      exact ⟨inductionHypothesis (n / 16) (by omega), digit (Nat.mod_lt n (by decide))⟩

theorem lineBreak_not_mem_quotedChar (c : Char) : '\n' ∉ Text.quotedChar c := by
  unfold Text.quotedChar
  repeat' split
  next => decide
  next => decide
  next => decide
  next => decide
  next => decide
  next => decide
  next => simp [lineBreak_not_mem_hexadecimal]
  next other _ _ _ =>
    rw [List.mem_singleton]
    rintro rfl
    exact other rfl

theorem lineBreak_not_mem_quoted (text : String) : '\n' ∉ (Text.quoted text).toList := by
  simp [Text.quoted, lineBreak_not_mem_quotedChar]

/-- What stands before a line goes in front of the first piece. -/
theorem splitOn_append_left {α : Type} [BEq α] [LawfulBEq α] {separator : α} {front : List α}
    (plain : separator ∉ front) (back : List α) :
    (front ++ back).splitOn separator = (back.splitOn separator).modifyHead (front ++ ·) := by
  induction front with
  | nil => exact (congrFun List.modifyHead_id _).symm
  | cons first rest inductionHypothesis =>
    rw [List.mem_cons, not_or] at plain
    have other : ¬ (first == separator) = true := fun same => plain.1 (eq_of_beq same).symm
    rw [List.cons_append, List.splitOn_cons_eq_if_modifyHead, if_neg other,
      inductionHypothesis plain.2, List.modifyHead_modifyHead]
    rfl

theorem forall₂_modifyHead {α β : Type} {R : α → β → Prop} {f : α → α} {g : β → β} {left : List α}
    {right : List β} (heads : ∀ a b, R a b → R (f a) (g b)) (related : List.Forall₂ R left right) :
    List.Forall₂ R (left.modifyHead f) (right.modifyHead g) := by
  cases related with
  | nil => exact .nil
  | cons head tail => exact .cons (heads _ _ head) tail

namespace Scans

variable {scanned : List SourceLexeme}

theorem nil : Scans expected [] expected [] [] where
  whole := rfl
  lines := .cons rfl .nil
  nested := rfl
  texts := rfl
  behind before content after same := by simp at same
  plain _ _ := List.not_mem_nil

theorem mark {c : Char} (plain : c ∉ delimiters)
    (step : closersBehind expected c = some between)
    (scans : Scans between source left texts scanned) :
    Scans expected (c :: source) left texts (.mark c :: scanned) where
  whole := by
    rw [lexemesFrom_mark plain, scans.whole]
    rfl
  lines := by
    rw [List.splitOn_cons_eq_if_modifyHead, List.splitOn_cons_eq_if_modifyHead]
    by_cases isBreak : c = '\n'
    · rw [isBreak, if_pos (beq_self_eq_true _), if_pos (beq_self_eq_true _)]
      exact .cons rfl scans.lines
    · rw [if_neg (by simpa using isBreak), if_neg (by simpa using isBreak)]
      refine forall₂_modifyHead (fun line part isPart => ?_) scans.lines
      rw [lexemesFrom_mark plain, isPart]
      rfl
  nested := by
    rw [closersAfter, List.foldlM_cons, SourceLexeme.closers, step]
    exact scans.nested
  texts := scans.texts
  behind before content after same := by
    cases before with
    | nil => cases same
    | cons first before =>
      obtain ⟨lead, isLead, isLast⟩ := scans.behind before content after (List.cons.inj same).2
      exact ⟨lead, isLead, by rw [List.getLast?_cons, isLast, Option.getD_some]⟩
  plain delimiter isDelimiter isMark := by
    obtain same | later := List.mem_cons.mp isMark
    · cases same
      exact plain isDelimiter
    · exact scans.plain delimiter isDelimiter later

/-- A text behind a character that it may stand behind. -/
theorem text {c : Char} (isLead : c ∈ textLeads)
    (step : closersBehind expected c = some between) (text : String)
    (scans : Scans between source left texts scanned) :
    Scans expected (c :: ((Text.quoted text).toList ++ source)) left (text :: texts)
      (.mark c :: .text text.toList :: scanned) := by
  obtain ⟨plain, noBreak⟩ : c ∉ delimiters ∧ '\n' ≠ c := by
    simp only [textLeads, List.mem_cons, List.not_mem_nil, or_false] at isLead
    obtain rfl | rfl | rfl := isLead <;> decide
  have front : '\n' ∉ c :: (Text.quoted text).toList :=
    List.not_mem_cons_of_ne_of_not_mem noBreak (lineBreak_not_mem_quoted text)
  have frontScanned : SourceLexeme.mark '\n' ∉ [.mark c, .text text.toList] := by
    simpa using noBreak
  have scan : ∀ {rest part}, lexemesFrom .code rest = some part →
      lexemesFrom .code (c :: ((Text.quoted text).toList ++ rest)) =
        some (.mark c :: .text text.toList :: part) := by
    intro rest part isPart
    rw [lexemesFrom_mark plain, scan_quoted, isPart]
    rfl
  refine ⟨scan scans.whole, ?lines, ?nested, ?texts, ?behind, ?plain⟩
  case lines =>
    have split := splitOn_append_left front source
    have splitScanned := splitOn_append_left frontScanned scanned
    rw [List.cons_append] at split
    rw [List.cons_append, List.cons_append, List.nil_append] at splitScanned
    rw [split, splitScanned]
    exact forall₂_modifyHead (fun line part isPart => scan isPart) scans.lines
  case nested =>
    rw [closersAfter, List.foldlM_cons, SourceLexeme.closers, step]
    exact scans.nested
  case texts =>
    have isText : SourceLexeme.text? (.text text.toList) = some text :=
      congrArg some (String.ofList_toList)
    rw [List.filterMap_cons_none rfl, List.filterMap_cons_some isText, scans.texts]
  case behind =>
    intro before content after same
    match before with
    | [] => cases same
    | [first] =>
      cases same
      exact ⟨c, isLead, rfl⟩
    | first :: second :: before =>
      have later := (List.cons.inj (List.cons.inj same).2).2
      obtain ⟨lead, isLead, isLast⟩ := scans.behind before content after later
      exact ⟨lead, isLead, by simp [List.getLast?_cons, isLast]⟩
  case plain =>
    intro delimiter isDelimiter isMark
    obtain same | isLater := List.mem_cons.mp isMark
    · cases same
      exact plain isDelimiter
    · obtain same | isLater := List.mem_cons.mp isLater
      · cases same
      · exact scans.plain delimiter isDelimiter isLater

theorem comment {comment : List Char} (oneLine : '\n' ∉ comment)
    (scans : Scans expected ('\n' :: source) left texts scanned) :
    Scans expected ('/' :: '/' :: (comment ++ '\n' :: source)) left texts scanned where
  whole := by
    rw [lexemesFrom_comment oneLine _ (by simp), scans.whole]
  lines := by
    have front : '\n' ∉ '/' :: '/' :: comment := by simpa using oneLine
    have split := splitOn_append_left front ('\n' :: source)
    have lines := scans.lines
    rw [List.splitOn_cons_eq_if_modifyHead, if_pos (beq_self_eq_true _)] at split lines
    rw [List.cons_append, List.cons_append, List.modifyHead_cons] at split
    rw [split]
    generalize scanned.splitOn (.mark '\n') = parts at lines
    cases lines with
    | cons first rest =>
      refine .cons ?_ rest
      rw [List.cons_append, List.cons_append, lexemesFrom_comment oneLine _ (by simp)]
      exact first
  nested := scans.nested
  texts := scans.texts
  behind := scans.behind
  plain := scans.plain

end Scans

/-- Source is scanned as it was put together. -/
theorem IsSource.exists_scans (isSource : IsSource expected source left texts) :
    ∃ scanned, Scans expected source left texts scanned := by
  induction isSource with
  | nil => exact ⟨[], .nil⟩
  | mark plain step _ inductionHypothesis =>
    obtain ⟨scanned, scans⟩ := inductionHypothesis
    exact ⟨_, scans.mark plain step⟩
  | text isLead step text _ inductionHypothesis =>
    obtain ⟨scanned, scans⟩ := inductionHypothesis
    exact ⟨_, scans.text isLead step text⟩
  | comment oneLine _ inductionHypothesis =>
    obtain ⟨scanned, scans⟩ := inductionHypothesis
    exact ⟨scanned, scans.comment oneLine⟩

/-! ## Expressions -/

def endsInLead (source : List Char) : Bool := source.getLast?.any textLeads.contains

theorem endsInLead_append (front : List Char) {back : List Char} (nonempty : back ≠ []) :
    endsInLead (front ++ back) = endsInLead back := by
  rw [endsInLead, List.getLast?_append_of_ne_nil front nonempty, endsInLead]

/-- Whether an expression that holds some texts may stand wherever a text may. -/
structure IsExpression (value : String) (texts : List String) : Prop where
  follows : ∀ {expected source left : List Char} {earlier : List String},
    IsSource expected source left earlier → endsInLead source →
      IsSource expected (source ++ value.toList) left (earlier ++ texts)

/-- By induction on the source before the text, down to the character that it stands behind. -/
theorem IsExpression.quoted (text : String) : IsExpression (Text.quoted text) [text] := by
  refine ⟨fun isSource ends => ?_⟩
  induction isSource with
  | nil => cases ends
  | @mark c _ _ later _ _ plain step rest inductionHypothesis =>
    cases later with
    | nil =>
      cases rest
      have isLead : c ∈ textLeads := by simpa [endsInLead] using ends
      have alone := IsSource.text isLead step text .nil
      rwa [List.append_nil] at alone
    | cons next others =>
      have isLater : endsInLead (next :: others) := by
        rwa [← endsInLead_append [c] (List.cons_ne_nil _ _)]
      exact .mark plain step (inductionHypothesis isLater)
  | @text c _ _ later _ _ isLead step other rest inductionHypothesis =>
    have isLater : endsInLead later := by
      cases later with
      | nil =>
        have closing : c :: ((Text.quoted other).toList ++ []) =
            (c :: '\x22' :: other.toList.flatMap Text.quotedChar) ++ ['\x22'] := by
          simp [Text.quoted]
        rw [closing, endsInLead_append _ (List.cons_ne_nil _ _)] at ends
        cases ends
      | cons next others =>
        rwa [← endsInLead_append (c :: (Text.quoted other).toList) (List.cons_ne_nil _ _)]
    rw [List.cons_append, List.append_assoc]
    exact .text isLead step other (inductionHypothesis isLater)
  | @comment comment _ later _ _ oneLine _ inductionHypothesis =>
    have isLater : endsInLead ('\n' :: later) := by
      rwa [← endsInLead_append ('/' :: '/' :: comment) (List.cons_ne_nil _ _)]
    have rest := inductionHypothesis isLater
    rw [List.cons_append, List.cons_append, List.append_assoc, List.cons_append]
    exact .comment oneLine rest

/-- What leaves no bracket open may stand anywhere. -/
theorem IsExpression.of_isSource {value : String}
    (isSource : IsSource [] value.toList [] texts) : IsExpression value texts :=
  ⟨fun before _ => before.append (isSource.inside _)⟩

theorem IsExpression.part {value own : String} (isExpression : IsExpression value texts)
    (isPart : IsSource [] own.toList [] others) :
    IsExpression (value ++ own) (texts ++ others) := by
  refine ⟨fun isSource ends => ?_⟩
  rw [String.toList_append, ← List.append_assoc, ← List.append_assoc]
  exact (isExpression.follows isSource ends).append (isPart.inside _)

/-! ## Lines from left to right -/

/-- The closing brackets that are expected after code; none if more than code may be in it. -/
def closersAfterCode (expected code : List Char) : Option (List Char) :=
  if code.any delimiters.contains then none else code.foldlM closersBehind expected

/-- Whether a text is code that starts where some closing brackets are expected and leaves others
    expected. -/
inductive IsCode (expected : List Char) : String → List Char → Prop where
  | of {code left : List Char} (writes : closersAfterCode expected code = some left) :
      IsCode expected (String.ofList code) left

/-- Whether code also ends where a text may begin. -/
inductive IsLead (expected : List Char) : String → List Char → Prop where
  | of {code left : List Char} (writes : closersAfterCode expected code = some left)
      (ends : endsInLead code) : IsLead expected (String.ofList code) left

theorem IsCode.isSource {own : String} (isCode : IsCode expected own left) :
    IsSource expected own.toList left [] := by
  cases isCode with
  | @of code _ writes =>
    rw [String.toList_ofList]
    unfold closersAfterCode at writes
    split at writes
    next => cases writes
    next plain =>
      induction code generalizing expected with
      | nil =>
        cases writes
        exact .nil
      | cons c rest inductionHypothesis =>
        rw [List.any_cons, Bool.or_eq_true, not_or] at plain
        rw [List.foldlM_cons] at writes
        obtain ⟨between, step, later⟩ := Option.bind_eq_some_iff.mp writes
        exact .mark (by simpa using plain.1) step (inductionHypothesis plain.2 later)

theorem IsLead.isCode {own : String} (isLead : IsLead expected own left) :
    IsCode expected own left := by
  cases isLead with
  | of writes ends => exact .of writes

theorem IsLead.ends {own : String} (isLead : IsLead expected own left) :
    endsInLead own.toList := by
  cases isLead with
  | of writes ends => rwa [String.toList_ofList]

namespace IsSource

variable {begun own value : String}

theorem of_code (own : String) (left : List Char) (isCode : IsCode expected own left) :
    IsSource expected own.toList left [] := isCode.isSource

/-- Code up to a place for a text, and an expression in this place. -/
theorem of_expression (own : String) (left : List Char) (isLead : IsLead expected own left)
    (isExpression : IsExpression value others) :
    IsSource expected (own ++ value).toList left others := by
  rw [String.toList_append]
  exact isExpression.follows isLead.isCode.isSource isLead.ends

theorem code (isSource : IsSource expected begun.toList between texts) (own : String)
    (left : List Char) (isCode : IsCode between own left) :
    IsSource expected (begun ++ own).toList left texts := by
  have longer := isSource.append isCode.isSource
  rwa [← String.toList_append, List.append_nil] at longer

theorem part (isSource : IsSource expected begun.toList left texts)
    (isPart : IsSource [] own.toList [] others) :
    IsSource expected (begun ++ own).toList left (texts ++ others) := by
  rw [String.toList_append]
  exact isSource.append (isPart.inside left)

theorem expression (isSource : IsSource expected begun.toList between texts) (own : String)
    (left : List Char) (isLead : IsLead between own left)
    (isExpression : IsExpression value others) :
    IsSource expected (begun ++ own ++ value).toList left (texts ++ others) := by
  rw [String.toList_append]
  refine isExpression.follows (isSource.code own left isLead.isCode) ?_
  have ends := isLead.ends
  have nonempty : own.toList ≠ [] := fun empty => by simp [empty, endsInLead] at ends
  rwa [String.toList_append, endsInLead_append _ nonempty]

end IsSource

/-! ## Words -/

/-- The characters that mean something outside of comments and texts. -/
def signs : List Char := '\n' :: delimiters ++ brackets.map Prod.fst ++ brackets.map Prod.snd

/-- Whether a text has no character with a meaning of its own. -/
def IsWord (text : String) : Prop := ∀ c ∈ signs, c ∉ text.toList

instance (text : String) : Decidable (IsWord text) :=
  List.decidableBAll (fun c => c ∉ text.toList) signs

/-- What is decided of the signs one by one. -/
theorem forall_signs {P : Char → Prop} [DecidablePred P] (all : signs.all fun c => decide (P c)) :
    ∀ c ∈ signs, P c := fun c isSign => of_decide_eq_true (List.all_eq_true.mp all c isSign)

theorem IsWord.append {text more : String} (isWord : IsWord text) (moreIsWord : IsWord more) :
    IsWord (text ++ more) := by
  intro c isSign
  rw [String.toList_append, List.mem_append, not_or]
  exact ⟨isWord c isSign, moreIsWord c isSign⟩

theorem IsWord.isSource {text : String} (isWord : IsWord text) (expected : List Char) :
    IsSource expected text.toList expected [] := by
  have each : ∀ chars : List Char, (∀ c ∈ signs, c ∉ chars) →
      IsSource expected chars expected [] := by
    intro chars plain
    induction chars with
    | nil => exact .nil
    | cons c rest inductionHypothesis =>
      have noSign : c ∉ signs := fun isSign => plain c isSign List.mem_cons_self
      simp only [signs, List.cons_append, List.mem_cons, List.mem_append, not_or] at noSign
      obtain ⟨-, ⟨noDelimiter, opensNone⟩, closesNone⟩ := noSign
      have notFound : brackets.lookup c = none := by
        rw [List.lookup_eq_none_iff]
        rintro bracket isBracket
        rw [bne_iff_ne]
        rintro rfl
        exact opensNone (List.mem_map_of_mem isBracket)
      have step : closersBehind expected c = some expected := by
        rw [closersBehind, notFound]
        exact if_neg closesNone
      exact .mark noDelimiter step (inductionHypothesis fun d isSign isLater =>
        plain d isSign (List.mem_cons_of_mem c isLater))
  exact each _ isWord

theorem IsSource.word {begun own : String} (isSource : IsSource expected begun.toList left texts)
    (isWord : IsWord own) : IsSource expected (begun ++ own).toList left texts := by
  have longer := isSource.append (isWord.isSource left)
  rwa [← String.toList_append, List.append_nil] at longer

/-! ## Lines and blocks -/

def Stroke.text : Stroke → String
  | .line text | .opening text | .closing text => text

/-- Whether lines leave no bracket open and hold some texts, at whatever level they stand. -/
def AreSource (strokes : List Stroke) (texts : List String) : Prop :=
  ∀ level, IsSource [] (Page.write ⟨"", level⟩ strokes).text.toList [] texts

theorem isWord_margin (level : Nat) : IsWord (String.join (List.replicate level "    ")) := by
  induction level with
  | zero => decide
  | succ level inductionHypothesis =>
    rw [List.replicate_succ, String.join_cons]
    exact IsWord.append (by decide) inductionHypothesis

theorem isWord_indentation (level : Nat) (text : String) :
    IsWord (if text = "" then "" else String.join (List.replicate level "    ")) := by
  split
  next => decide
  next => exact isWord_margin level

theorem IsSource.indented {text : String} (isSource : IsSource expected text.toList left texts)
    (level : Nat) : IsSource expected (indented level text).toList left texts := by
  have line := ((isWord_indentation level text).isSource expected).append isSource
  rw [← String.toList_append, List.nil_append] at line
  exact line.code "\n" left (.of rfl)

namespace AreSource

variable {strokes later : List Stroke}

theorem nil : AreSource [] [] := fun _ => .nil

theorem stroke {s : Stroke} (isSource : IsSource [] s.text.toList [] texts) :
    AreSource [s] texts := by
  intro level
  cases s with
  | line text | opening text =>
    have line := isSource.indented level
    rwa [← String.empty_append (s := indented level _)] at line
  | closing text =>
    have line := isSource.indented (level - 1)
    rwa [← String.empty_append (s := indented (level - 1) _)] at line

theorem of_eq (areSource : AreSource strokes others) (same : others = texts) :
    AreSource strokes texts := same ▸ areSource

theorem append (first : AreSource strokes texts) (second : AreSource later others) :
    AreSource (strokes ++ later) (texts ++ others) := by
  intro level
  rw [Page.write_append, Page.text_write, String.toList_append]
  exact (first level).append (second _)

theorem cons {s : Stroke} (isSource : IsSource [] s.text.toList [] texts)
    (rest : AreSource later others) : AreSource (s :: later) (texts ++ others) :=
  (stroke isSource).append rest

/-- A line of code above other lines. -/
theorem code {own : String} (isCode : IsCode [] own []) (rest : AreSource later others) :
    AreSource (.line own :: later) others :=
  (stroke (s := .line own) isCode.isSource).append rest

theorem flatMap {α : Type} {items : List α} {source : α → List Stroke} {held : α → List String}
    (each : ∀ item ∈ items, AreSource (source item) (held item)) :
    AreSource (items.flatMap source) (items.flatMap held) := by
  induction items with
  | nil => exact .nil
  | cons item rest inductionHypothesis =>
    obtain ⟨first, others⟩ := List.forall_mem_cons.mp each
    rw [List.flatMap_cons, List.flatMap_cons]
    exact first.append (inductionHypothesis others)

/-- A block whose last line closes the brackets that its first line opens. -/
theorem block {first : String} (opening : IsSource [] first.toList between texts)
    (inside : AreSource strokes others) {last : String}
    (closing : IsCode between last []) :
    AreSource (block first strokes last) (texts ++ others) := by
  intro level
  have begun := (opening.indented level).append ((inside (level + 1)).inside between)
  have opened : Page.stroke ⟨"", level⟩ (.opening first) = ⟨indented level first, level + 1⟩ := by
    simp [Page.stroke]
  have written : indented level first ++ (Page.write ⟨"", level + 1⟩ strokes).text =
      ((Page.stroke ⟨"", level⟩ (.opening first)).write strokes).text := by
    rw [opened]
    exact (Page.text_write ⟨indented level first, level + 1⟩ strokes).symm
  rw [← String.toList_append, written] at begun
  rw [Page.write_block]
  generalize (Page.stroke ⟨"", level⟩ (.opening first)).write strokes = page at begun ⊢
  have whole := begun.append (closing.isSource.indented (page.level - 1))
  rwa [← String.toList_append, List.append_nil] at whole

theorem comment {text : String} {own : List Char} (isComment : text.toList = '/' :: '/' :: own)
    (oneLine : '\n' ∉ own) : AreSource [.line text] [] := by
  intro level
  have ends : IsSource [] ['\n'] [] [] := .mark (by decide) rfl .nil
  have line := ((isWord_indentation level text).isSource []).append (.comment oneLine ends)
  have written : (if text = "" then "" else String.join (List.replicate level "    ")).toList ++
      '/' :: '/' :: (own ++ ['\n']) = (indented level text).toList := by
    simp [indented, isComment]
  rw [written] at line
  rwa [← String.empty_append (s := indented level text)] at line

end AreSource

end ConfigBinding
