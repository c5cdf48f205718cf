import ConfigBinding.Proofs.Json.Scanned
import ConfigBinding.Proofs.Json.Scanning
import ConfigBinding.Proofs.Lists

/-!
# Where the first value of a text ends

A list or object ends with its closing bracket, and what is made of it does not depend on what
follows: the scan that has met the bracket is blank again, and the machine looks no further.

* `Scan.exists_of_closes`: a closing bracket among the lexemes is one in the text, and what the text
  goes on with is scanned for itself;
* `Scan.lexemes_blank_eq_nil`: only white space has no lexemes;
* `Want.Settles`, `Want.exists_of_isClosed`: one move of the machine, and all moves up to the end of
  a list or object;
* `Tree.exists_of_isClosed`: the end of the first value in a text.
-/

namespace ConfigBinding

/-! ## Brackets in a text -/

def IsClosing (c : Char) : Prop := c = ']' ∨ c = '\x7d'

def IsSpacing (c : Char) : Prop := c = ' ' ∨ c = '\n' ∨ c = '\t' ∨ c = '\r'

theorem IsClosing.not_isSpacing {c : Char} (isClosing : IsClosing c) : ¬ IsSpacing c := by
  obtain rfl | rfl := isClosing <;> simp [IsSpacing]

def Token.Closes : Token → Prop
  | .closeList | .closeObject => True
  | _ => False

theorem NumberScan.not_closes_atEnd (scan : NumberScan) (size : Nat) :
    ¬ (scan.atEnd size).token.Closes := by
  unfold NumberScan.atEnd
  split <;> exact not_false

theorem StringScan.not_closes_of_next {scan : StringScan} {offset : Nat} {c : Char}
    {lexeme : Lexeme} (complete : scan.next offset c = .error lexeme) :
    ¬ lexeme.token.Closes := by
  simp only [StringScan.next] at complete
  repeat' split at complete
  all_goals
    first
    | injection complete with complete
      subst complete
      exact not_false
    | cases complete

namespace Scan

/-- Whether among the lexemes that a character completes only the last one closes something, which
    then is the character itself. -/
def ClosesLast (c : Char) (step : List Lexeme × Scan) : Prop :=
  ∀ before close after, step.1 = before ++ close :: after → close.token.Closes →
    after = [] ∧ IsClosing c ∧ step.2 = .blank

section Step

variable {c : Char} {scan : Scan} {lexeme : Lexeme} {lexemes : List Lexeme}

theorem closesLast_nil (c : Char) (scan : Scan) : ClosesLast c ([], scan) :=
  fun _ _ _ isNil _ =>
    absurd isNil.symm (List.append_ne_nil_of_right_ne_nil _ (List.cons_ne_nil _ _))

theorem ClosesLast.cons (noClose : ¬ lexeme.token.Closes) (last : ClosesLast c (lexemes, scan)) :
    ClosesLast c (lexeme :: lexemes, scan) := by
  intro before close after same closes
  cases before with
  | nil =>
    cases same
    exact absurd closes noClose
  | cons first before =>
    injection same with _ same
    exact last before close after same closes

theorem closesLast_bracket (isClosing : IsClosing c) (lexeme : Lexeme) :
    ClosesLast c ([lexeme], .blank) := by
  intro before close after same _
  cases before with
  | nil =>
    cases same
    exact ⟨rfl, isClosing, rfl⟩
  | cons first before =>
    injection same with _ same
    exact absurd same.symm (List.append_ne_nil_of_right_ne_nil _ (List.cons_ne_nil _ _))

theorem closesLast_begin (offset : Nat) (c : Char) : ClosesLast c (begin offset c) := by
  unfold begin
  dsimp only
  repeat' refine iteInduction (motive := ClosesLast c) (fun isMark => ?_) (fun _ => ?_)
  all_goals
    first
    | exact closesLast_nil c _
    | exact (closesLast_nil c _).cons not_false
    | exact closesLast_bracket (.inl (eq_of_beq isMark)) _
    | exact closesLast_bracket (.inr (eq_of_beq isMark)) _

theorem closesLast_next (scan : Scan) (offset : Nat) (c : Char) :
    ClosesLast c (scan.next offset c) := by
  cases scan with
  | blank => exact closesLast_begin offset c
  | word start lead expected value =>
    cases expected with
    | nil => exact (closesLast_begin offset c).cons not_false
    | cons first rest =>
      simp only [next]
      split
      next =>
        split
        next => exact (closesLast_nil c _).cons not_false
        next => exact closesLast_nil c _
      next => exact (closesLast_nil c _).cons not_false
  | number inner =>
    simp only [next]
    split
    next => exact closesLast_nil c _
    next broken =>
      rw [NumberScan.eq_malformed_of_next broken]
      exact (closesLast_nil c _).cons not_false
    next => exact (closesLast_begin offset c).cons not_false
  | string inner =>
    simp only [next]
    split
    next => exact closesLast_nil c _
    next complete =>
      exact (closesLast_nil c _).cons (StringScan.not_closes_of_next complete)
  | stopped => exact closesLast_nil c _

theorem not_closes_atEnd (scan : Scan) (size : Nat) :
    ∀ lexeme ∈ scan.atEnd size, ¬ lexeme.token.Closes := by
  cases scan with
  | blank | stopped => exact List.forall_mem_nil _
  | word | string => exact List.forall_mem_singleton.mpr not_false
  | number inner => exact List.forall_mem_singleton.mpr (inner.not_closes_atEnd size)

end Step

/-- A closing bracket among the lexemes of a text is one in the text. What comes before it is
    scanned alike whatever the text goes on with, and that is scanned for itself. -/
theorem exists_of_closes {scan : Scan} {offset : Nat} {chars : List Char}
    {before after : List Lexeme} {close : Lexeme}
    (scanned : scan.lexemes offset chars = before ++ close :: after)
    (closes : close.token.Closes) :
    ∃ front c back later, chars = front ++ c :: back ∧ IsClosing c ∧
      ∀ tail, scan.lexemes offset (front ++ c :: tail) =
        before ++ close :: Scan.blank.lexemes later tail := by
  induction chars generalizing scan offset before with
  | nil =>
    have isLast : close ∈ scan.atEnd offset := by
      have listed : scan.atEnd offset = before ++ close :: after := scanned
      rw [listed]
      exact List.mem_append_right _ List.mem_cons_self
    exact absurd closes (scan.not_closes_atEnd offset close isLast)
  | cons c rest inductionHypothesis =>
    rw [lexemes_cons] at scanned
    obtain ⟨more, isHere⟩ | ⟨begun, rfl, isLater⟩ := split_of_append scanned
    · obtain ⟨rfl, isClosing, isBlank⟩ :=
        scan.closesLast_next offset c before close more isHere closes
      refine ⟨[], c, rest, offset + c.utf8Size, rfl, isClosing, fun tail => ?_⟩
      rw [List.nil_append, lexemes_cons, isHere, isBlank, List.append_assoc, List.singleton_append]
    · obtain ⟨front, mark, back, later, rfl, isClosing, alike⟩ := inductionHypothesis isLater
      refine ⟨c :: front, mark, back, later, rfl, isClosing, fun tail => ?_⟩
      rw [List.cons_append, lexemes_cons, alike, List.append_assoc]

/-! ## White space -/

def IsInside : Scan → Prop
  | .word _ _ _ _ | .number _ | .string _ => True
  | .blank | .stopped => False

theorem begin_of_isSpacing {c : Char} (isSpacing : IsSpacing c) (offset : Nat) :
    begin offset c = ([], .blank) := by
  obtain rfl | rfl | rfl | rfl := isSpacing <;> rfl

/-- Whatever is not white space begins a lexeme, or is one. -/
theorem isInside_begin {c : Char} (isMark : ¬ IsSpacing c) (offset : Nat) :
    (begin offset c).1 ≠ [] ∨ (begin offset c).2.IsInside := by
  have notSpacing : ¬ (c == ' ' || c == '\n' || c == '\t' || c == '\r') = true := by
    simpa [IsSpacing, or_assoc] using isMark
  -- White space is asked for first; every other answer gives a lexeme or begins one.
  unfold begin
  dsimp only
  rw [if_neg notSpacing]
  repeat' refine iteInduction (motive := fun step : List Lexeme × Scan =>
    step.1 ≠ [] ∨ step.2.IsInside) (fun _ => ?_) (fun _ => ?_)
  all_goals
    first
    | exact .inr trivial
    | exact .inl (List.cons_ne_nil _ _)

theorem isInside_next {scan : Scan} (isInside : scan.IsInside) (offset : Nat) (c : Char) :
    (scan.next offset c).1 ≠ [] ∨ (scan.next offset c).2.IsInside := by
  cases scan with
  | blank | stopped => exact isInside.elim
  | word start lead expected value =>
    cases expected with
    | nil => exact .inl (List.cons_ne_nil _ _)
    | cons first rest =>
      simp only [next]
      split
      next =>
        split
        next => exact .inl (List.cons_ne_nil _ _)
        next => exact .inr trivial
      next => exact .inl (List.cons_ne_nil _ _)
  | number inner =>
    simp only [next]
    split
    next => exact .inr trivial
    next => exact .inl (List.cons_ne_nil _ _)
    next => exact .inl (List.cons_ne_nil _ _)
  | string inner =>
    simp only [next]
    split
    next => exact .inr trivial
    next => exact .inl (List.cons_ne_nil _ _)

/-- A lexeme that was begun is completed or broken, at the latest at the end of the text. -/
theorem lexemes_ne_nil_of_isInside {scan : Scan} (isInside : scan.IsInside) (offset : Nat)
    (chars : List Char) : scan.lexemes offset chars ≠ [] := by
  induction chars generalizing scan offset with
  | nil =>
    cases scan with
    | blank | stopped => exact isInside.elim
    | word | number | string => exact List.cons_ne_nil _ _
  | cons c rest inductionHypothesis =>
    rw [lexemes_cons]
    obtain complete | stillInside := isInside_next isInside offset c
    · exact List.append_ne_nil_of_left_ne_nil complete _
    · exact List.append_ne_nil_of_right_ne_nil _ (inductionHypothesis stillInside _)

/-- White space and nothing else has no lexemes. -/
theorem lexemes_blank_eq_nil {offset : Nat} {chars : List Char} :
    Scan.blank.lexemes offset chars = [] ↔ ∀ c ∈ chars, IsSpacing c := by
  induction chars generalizing offset with
  | nil => exact iff_of_true rfl (List.forall_mem_nil _)
  | cons c rest inductionHypothesis =>
    rw [lexemes_cons, List.forall_mem_cons, next]
    by_cases isSpacing : IsSpacing c
    · rw [begin_of_isSpacing isSpacing, List.nil_append, inductionHypothesis]
      exact (and_iff_right isSpacing).symm
    · refine iff_of_false ?_ fun spacing => isSpacing spacing.1
      obtain complete | isInside := isInside_begin isSpacing offset
      · exact List.append_ne_nil_of_left_ne_nil complete _
      · exact List.append_ne_nil_of_right_ne_nil _ (lexemes_ne_nil_of_isInside isInside _ _)

end Scan

/-! ## Closed lists and objects -/

def ListEnd.IsClosed : ListEnd → Prop
  | .closed _ => True
  | _ => False

def ObjectEnd.IsClosed : ObjectEnd → Prop
  | .closed _ => True
  | _ => False

def Items.IsClosed : Items → Prop
  | .nil close => close.IsClosed
  | .cons _ _ tail => tail.IsClosed

def Members.IsClosed : Members → Prop
  | .nil close => close.IsClosed
  | .unvalued _ _ => False
  | .cons _ _ _ tail => tail.IsClosed

def Tree.IsClosed : Tree → Prop
  | .array _ items => items.IsClosed
  | .object _ members => members.IsClosed
  | .scalar _ _ _ | .broken _ _ _ _ => False

theorem Tree.isClosed_array (start : Nat) (items : List (Tree × Nat)) (close : ListEnd) :
    (Tree.array start (.ofReversed items close)).IsClosed ↔ close.IsClosed := by
  have general : ∀ tail : Items,
      (items.foldl (fun tail item => .cons item.1 item.2 tail) tail).IsClosed ↔ tail.IsClosed := by
    induction items with
    | nil => exact fun _ => Iff.rfl
    | cons item rest inductionHypothesis => exact fun tail => inductionHypothesis _
  exact general _

theorem Tree.isClosed_object (start : Nat) (members : List OpenMember) (tail : Members) :
    (Tree.object start (.ofReversed members tail)).IsClosed ↔ tail.IsClosed := by
  induction members generalizing tail with
  | nil => exact Iff.rfl
  | cons member rest inductionHypothesis => exact inductionHypothesis _

/-- What the text does not get beyond is not closed, and neither is anything around it. -/
theorem Tree.not_isClosed_breakOff (size : Nat) {tree : Tree} (isOpen : ¬ tree.IsClosed)
    (frames : List OpenFrame) : ¬ (tree.breakOff size frames).IsClosed := by
  induction frames generalizing tree with
  | nil => exact isOpen
  | cons frame rest inductionHypothesis =>
    refine inductionHypothesis ?_
    cases frame with
    | list start items => exact (Tree.isClosed_array _ _ _).not.mpr not_false
    | object start members key => exact (Tree.isClosed_object _ _ _).not.mpr not_false

/-! ## The machine -/

namespace Want

/-- Whether the machine waits for something that belongs where it stands: a separator only inside a
    list or object. -/
def IsInPlace (frames : List OpenFrame) : Want → Prop
  | .separator _ => frames ≠ []
  | _ => True

/-- What one move of the machine does, given the size of the text and the lexemes to come. Where it
    goes on depends on the next lexeme at most, and where it ends with something closed, by a
    lexeme that closes, on nothing at all. -/
structure Settles (closes : Prop) (move : Nat → List Lexeme → State) : Prop where
  inPlace : ∀ {size rest want frames}, move size rest = .inl (want, frames) → want.IsInPlace frames
  onward : ∀ {size next more state}, move size (next :: more) = .inl state →
    ∀ size more, move size (next :: more) = .inl state
  ends : ∀ {size rest tree out}, move size rest = .inr (tree, out) → tree.IsClosed →
    closes ∧ ∀ size rest, move size rest = .inr (tree, rest)

variable {closes : Prop} {tree : Tree} {frames outer : List OpenFrame} {lexeme : Lexeme}

theorem settles_inl {want : Want} (inPlace : want.IsInPlace frames) :
    Settles closes fun _ _ => .inl (want, frames) where
  inPlace moved := by
    cases moved
    exact inPlace
  onward moved _ _ := moved
  ends moved := nomatch moved

theorem settles_complete (isEnd : tree.IsClosed → closes) (frames : List OpenFrame) :
    Settles closes fun _ rest => complete tree frames rest := by
  cases frames with
  | nil =>
    refine ⟨(fun moved => nomatch moved), (fun moved => nomatch moved), fun moved closed => ?_⟩
    cases moved
    exact ⟨isEnd closed, fun _ _ => rfl⟩
  | cons frame outer => exact settles_inl (List.cons_ne_nil _ _)

def BreaksOff (size : Nat) (frames : List OpenFrame) (state : State) : Prop :=
  ∃ tree : Tree, ¬ tree.IsClosed ∧ state = broken size tree frames

theorem BreaksOff.ne_inl {size : Nat} {state : State} (breaksOff : BreaksOff size frames state)
    (next : Want × List OpenFrame) : state ≠ .inl next := by
  obtain ⟨tree, -, rfl⟩ := breaksOff
  exact nofun

theorem BreaksOff.not_isClosed {size : Nat} {out : List Lexeme}
    (breaksOff : BreaksOff size frames (.inr (tree, out))) : ¬ tree.IsClosed := by
  obtain ⟨inner, isOpen, same⟩ := breaksOff
  cases same
  exact Tree.not_isClosed_breakOff size isOpen frames

theorem settles_broken {move : Nat → List Lexeme → State}
    (breaksOff : ∀ size rest, BreaksOff size frames (move size rest)) : Settles closes move where
  inPlace moved := absurd moved ((breaksOff _ _).ne_inl _)
  onward moved := absurd moved ((breaksOff _ _).ne_inl _)
  ends moved closed := absurd closed (moved ▸ breaksOff _ _).not_isClosed

/-- A comma is judged by the lexeme after it: the machine breaks off there or goes on. -/
theorem settles_comma (frames : List OpenFrame) {move : Nat → List Lexeme → State}
    (atEnd : ∀ size, BreaksOff size frames (move size []))
    (before : ∀ next : Lexeme,
      (∀ size more, BreaksOff size frames (move size (next :: more))) ∨
        ∃ want outer, (∀ size more, move size (next :: more) = .inl (want, outer)) ∧
          want.IsInPlace outer) : Settles closes move where
  inPlace {size rest want frames} moved := by
    cases rest with
    | nil => exact absurd moved ((atEnd size).ne_inl _)
    | cons next more =>
      obtain breaksOff | ⟨_, _, goesOn, inPlace⟩ := before next
      · exact absurd moved ((breaksOff size more).ne_inl _)
      · cases (goesOn size more).symm.trans moved
        exact inPlace
  onward {size next more state} moved := by
    obtain breaksOff | ⟨_, _, goesOn, -⟩ := before next
    · exact absurd moved ((breaksOff size more).ne_inl _)
    · cases (goesOn size more).symm.trans moved
      exact goesOn
  ends {size rest tree out} moved closed := by
    cases rest with
    | nil => exact absurd closed (moved ▸ atEnd size).not_isClosed
    | cons next more =>
      obtain breaksOff | ⟨_, _, goesOn, -⟩ := before next
      · exact absurd closed (moved ▸ breaksOff size more).not_isClosed
      · cases (goesOn size more).symm.trans moved

theorem settles_takeValue (frames : List OpenFrame) (lexeme : Lexeme) :
    Settles lexeme.token.Closes fun size rest => takeValue size frames lexeme rest := by
  obtain ⟨token, lead, start, stop⟩ := lexeme
  cases token with
  | openList => exact settles_inl trivial
  | openObject => exact settles_inl trivial
  | scalar value => exact settles_complete False.elim frames
  | broken | closeList | closeObject | comma | colon =>
    exact settles_broken fun _ _ => ⟨.broken _ _ _ _, not_false, rfl⟩

/-- A key remembers where the next lexeme starts. -/
theorem settles_takeKey (start : Nat) (members : List OpenMember) (frames : List OpenFrame)
    (lexeme : Lexeme) :
    Settles lexeme.token.Closes fun size rest =>
      takeKey size start members frames lexeme rest := by
  have noKey : ¬ (Tree.object start (.ofReversed members (.nil (.noKey lexeme)))).IsClosed :=
    (Tree.isClosed_object _ _ _).not.mpr not_false
  obtain ⟨token, lead, first, stop⟩ := lexeme
  cases token with
  | scalar value =>
    cases value with
    | string text =>
      refine ⟨fun moved => ?_, fun {size next more state} moved _ _ => ?_,
        fun moved => nomatch moved⟩
      · cases moved
        trivial
      · obtain ⟨token, lead, first, stop⟩ := next
        cases token <;> exact moved
    | null | bool | number => exact settles_broken fun _ _ => ⟨_, noKey, rfl⟩
  | openList | closeList | openObject | closeObject | comma | colon | broken =>
    exact settles_broken fun _ _ => ⟨_, noKey, rfl⟩

theorem settles_afterItem (start : Nat) (items : List (Tree × Nat)) (value : Tree)
    (outer : List OpenFrame) (lexeme : Lexeme) :
    Settles lexeme.token.Closes fun size rest =>
      afterItem size start items value outer lexeme rest := by
  have isOpen (settled : Nat) (close : ListEnd) (unclosed : ¬ close.IsClosed) :
      ¬ (Tree.array start (.ofReversed ((value, settled) :: items) close)).IsClosed :=
    (Tree.isClosed_array _ _ _).not.mpr unclosed
  obtain ⟨token, lead, offset, stop⟩ := lexeme
  cases token with
  | closeList => exact settles_complete (fun _ => trivial) outer
  | comma =>
    refine settles_comma outer (fun size => ?_) fun next => ?_
    · exact ⟨_, isOpen size (.endAfterComma size) not_false, rfl⟩
    · obtain ⟨token, lead, start, stop⟩ := next
      cases token with
      | closeList =>
        exact .inl fun _ _ => ⟨_, isOpen start (.trailingComma start) not_false, rfl⟩
      | openList | openObject | closeObject | comma | colon | scalar | broken =>
        exact .inr ⟨_, _, fun _ _ => rfl, trivial⟩
  | openList | openObject | closeObject | colon | scalar | broken =>
    exact settles_broken fun _ _ =>
      ⟨_, isOpen offset (.unseparated offset) not_false, rfl⟩

theorem settles_afterMember (start : Nat) (members : List OpenMember) (key : Key) (value : Tree)
    (outer : List OpenFrame) (lexeme : Lexeme) :
    Settles lexeme.token.Closes fun size rest =>
      afterMember size start members key value outer lexeme rest := by
  have isOpen (close : ObjectEnd) (unclosed : ¬ close.IsClosed) :
      ¬ (Tree.object start
        (.ofReversed (⟨key, value, lexeme.start⟩ :: members) (.nil close))).IsClosed :=
    (Tree.isClosed_object _ _ _).not.mpr unclosed
  obtain ⟨token, lead, offset, stop⟩ := lexeme
  cases token with
  | closeObject => exact settles_complete (fun _ => trivial) outer
  | comma =>
    refine settles_comma outer (fun size => ?_) fun next => ?_
    · exact ⟨_, isOpen (.endAfterComma size) not_false, rfl⟩
    · obtain ⟨token, lead, start, stop⟩ := next
      cases token with
      | closeObject => exact .inl fun _ _ => ⟨_, isOpen (.trailingComma start) not_false, rfl⟩
      | openList | openObject | closeList | comma | colon | scalar | broken =>
        exact .inr ⟨_, _, fun _ _ => rfl, trivial⟩
  | openList | openObject | closeList | colon | scalar | broken =>
    exact settles_broken fun _ _ => ⟨_, isOpen (.unseparated offset) not_false, rfl⟩

/-- Every move. -/
theorem settles_next {want : Want} (inPlace : want.IsInPlace frames) (lexeme : Lexeme) :
    Settles lexeme.token.Closes fun size rest => want.next size frames lexeme rest := by
  cases want with
  | value => exact settles_takeValue frames lexeme
  | firstItem start =>
    have takes := settles_takeValue (.list start [] :: frames) lexeme
    obtain ⟨token, lead, first, stop⟩ := lexeme
    cases token with
    | closeList => exact settles_complete (fun _ => trivial) frames
    | openList | openObject | closeObject | comma | colon | scalar | broken => exact takes
  | firstKey start =>
    have takes := settles_takeKey start [] frames lexeme
    obtain ⟨token, lead, first, stop⟩ := lexeme
    cases token with
    | closeObject => exact settles_complete (fun _ => trivial) frames
    | openList | openObject | closeList | comma | colon | scalar | broken => exact takes
  | nextKey start members => exact settles_takeKey start members frames lexeme
  | colon start members key =>
    obtain ⟨token, lead, first, stop⟩ := lexeme
    cases token with
    | colon => exact settles_inl trivial
    | openList | openObject | closeList | closeObject | comma | scalar | broken =>
      exact settles_broken fun _ _ =>
        ⟨_, (Tree.isClosed_object _ _ (.unvalued _ _)).not.mpr not_false, rfl⟩
  | separator done =>
    cases frames with
    | nil => exact absurd rfl inPlace
    | cons frame outer =>
      cases frame with
      | list start items => exact settles_afterItem start items done outer lexeme
      | object start members key => exact settles_afterMember start members key done outer lexeme

/-- Nothing is closed by the end of the text. -/
theorem not_isClosed_atEnd {want : Want} (inPlace : want.IsInPlace frames) (size : Nat) :
    ¬ (want.atEnd size frames).IsClosed := by
  cases want with
  | value | firstItem | firstKey =>
    refine Tree.not_isClosed_breakOff size ?_ frames
    exact not_false
  | nextKey | colon =>
    refine Tree.not_isClosed_breakOff size ?_ frames
    exact (Tree.isClosed_object _ _ _).not.mpr not_false
  | separator done =>
    cases frames with
    | nil => exact absurd rfl inPlace
    | cons frame outer =>
      refine Tree.not_isClosed_breakOff size ?_ outer
      cases frame with
      | list start items => exact (Tree.isClosed_array _ _ _).not.mpr not_false
      | object start members key => exact (Tree.isClosed_object _ _ _).not.mpr not_false

/-- A run that ends with something closed ends at a closing lexeme, in a text of any size and
    whatever lexemes follow. -/
theorem exists_of_isClosed {want : Want} (inPlace : want.IsInPlace frames) {size : Nat}
    {lexemes rest : List Lexeme} (ran : want.run size frames lexemes = (tree, rest))
    (closed : tree.IsClosed) :
    ∃ before close, lexemes = before ++ close :: rest ∧ close.token.Closes ∧
      ∀ size rest, want.run size frames (before ++ close :: rest) = (tree, rest) := by
  induction lexemes generalizing want frames with
  | nil =>
    cases ran
    exact absurd closed (not_isClosed_atEnd inPlace size)
  | cons lexeme later inductionHypothesis =>
    have settles := settles_next inPlace lexeme
    rw [run] at ran
    cases moved : want.next size frames lexeme later with
    | inr result =>
      rw [moved] at ran
      cases ran
      obtain ⟨closes, always⟩ := settles.ends moved closed
      have allTaken : later = rest := by
        have again := (always size later).symm.trans moved
        injection again with again
        injection again
      subst allTaken
      refine ⟨[], lexeme, rfl, closes, fun size rest => ?_⟩
      rw [List.nil_append, run, always]
    | inl state =>
      obtain ⟨nextWant, nextFrames⟩ := state
      rw [moved] at ran
      have nextInPlace := settles.inPlace moved
      cases later with
      | nil =>
        cases ran
        exact absurd closed (not_isClosed_atEnd nextInPlace size)
      | cons next more =>
        obtain ⟨before, close, split, closes, alike⟩ := inductionHypothesis nextInPlace ran
        refine ⟨lexeme :: before, close, by rw [split]; rfl, closes, fun size rest => ?_⟩
        have sameNext : ∃ more, before ++ close :: rest = next :: more := by
          cases before with
          | nil =>
            cases split
            exact ⟨rest, rfl⟩
          | cons first before =>
            cases split
            exact ⟨before ++ close :: rest, rfl⟩
        obtain ⟨more, isNext⟩ := sameNext
        have onward := settles.onward moved size more
        rw [← isNext] at onward
        rw [List.cons_append, run, onward]
        exact alike size rest

end Want

/-! ## Texts -/

/-- A text whose first value is a list or object begins with the text of this value, which ends in
    a closing bracket. Whatever it goes on with, the value is the same, and what follows is scanned
    for itself. -/
theorem Tree.exists_of_isClosed {text : String} {tree : Tree} {rest : List Lexeme}
    (isFirst : Tree.ofText text = (tree, rest)) (closed : tree.IsClosed) :
    ∃ value tail : String, ∃ later, text = value ++ tail ∧
      (∃ c, value.toList.getLast? = some c ∧ IsClosing c) ∧
      ∀ tail : String,
        Tree.ofText (value ++ tail) = (tree, Scan.blank.lexemes later tail.toList) := by
  have inPlace : Want.IsInPlace [] .value := trivial
  obtain ⟨before, close, scanned, closes, alike⟩ := Want.exists_of_isClosed inPlace isFirst closed
  obtain ⟨front, c, back, later, split, isClosing, onward⟩ := Scan.exists_of_closes scanned closes
  refine ⟨.ofList (front ++ [c]), .ofList back, later, ?_, ⟨c, ?_, isClosing⟩, fun tail => ?_⟩
  · rw [← String.ofList_append, List.append_assoc, List.singleton_append, ← split,
      String.ofList_toList]
  · rw [String.toList_ofList, List.getLast?_append_of_ne_nil _ (List.cons_ne_nil _ _)]
    rfl
  · have chars : (String.ofList (front ++ [c]) ++ tail).toList = front ++ c :: tail.toList := by
      rw [String.toList_append, String.toList_ofList, List.append_assoc, List.singleton_append]
    rw [Tree.ofText, Lexeme.ofText, chars, onward, alike]

end ConfigBinding
