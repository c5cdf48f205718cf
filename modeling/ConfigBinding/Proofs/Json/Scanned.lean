import ConfigBinding.Json.Tree
import ConfigBinding.Proofs.Json.Fitting
import Mathlib.Algebra.Group.Nat.Defs

/-!
# What is read from a text fits

No text holds a number beyond the doubles: one that is too large is a defect and has no value. So
the numbers in the tree of a text fit, whether the text is well formed or not.

* `Scan.StepFits`, `Want.StateFits`: what one character and one lexeme preserve;
* `Tree.Fits`: a tree whose numbers all fit;
* `Tree.fits_ofText`: the tree of any text.
-/

namespace ConfigBinding

/-! ## Lexemes -/

def Scalar.Fits : Scalar → Prop
  | .number (.ok value) => value.Fits
  | _ => True

def Lexeme.Fits (lexeme : Lexeme) : Prop :=
  match lexeme.token with
  | .scalar value => value.Fits
  | _ => True

/-- Whether the value of the word that a scan is in fits, and the digits of the number. -/
def Scan.Fits : Scan → Prop
  | .word _ _ _ value => value.Fits
  | .number inner => inner.digits < 2 ^ 64
  | _ => True

theorem NumberScan.fits_of_ofMagnitude? {negative : Bool} {stop : Nat} {m : Option Magnitude}
    {number : Number} (isValue : ofMagnitude? negative stop m = .ok number) : number.Fits := by
  cases m with
  | none => cases isValue
  | some magnitude =>
    cases isValue
    rfl

theorem NumberScan.fits_of_value {scan : NumberScan} (fits : scan.digits < 2 ^ 64) {stop : Nat}
    {number : Number} (isValue : scan.value stop = .ok number) : number.Fits := by
  unfold NumberScan.value at isValue
  extract_lets negative power real at isValue
  have realFits : ∀ {number : Number}, real = .ok number → number.Fits := by
    intro number found
    simp only [real] at found
    split at found
    next => cases found
    next => exact fits_of_ofMagnitude? found
  simp only [Nat.pow_eq] at isValue
  split at isValue
  next => exact realFits isValue
  next =>
    split at isValue
    next =>
      split at isValue
      next bounds =>
        cases isValue
        exact ⟨by omega, by omega⟩
      next => exact realFits isValue
    next =>
      cases isValue
      exact ⟨by omega, by omega⟩

theorem NumberScan.fits_addDigit {scan : NumberScan} (fits : scan.digits < 2 ^ 64)
    (phase : NumberPhase) (c : Char) : (scan.addDigit phase c).digits < 2 ^ 64 := by
  simp only [addDigit, Nat.pow_eq]
  split
  next => exact fits
  next isRoom => exact Nat.lt_of_not_le fun large => isRoom (.inr large)

theorem NumberScan.fits_of_next_ok {scan more : NumberScan} (fits : scan.digits < 2 ^ 64)
    {offset : Nat} {c : Char} (next : scan.next offset c = some (.ok more)) :
    more.digits < 2 ^ 64 := by
  simp only [NumberScan.next] at next
  repeat' split at next
  all_goals
    first
    | injection next with next
      injection next with next
      subst next
      first | exact fits_addDigit fits _ c | exact fits
    | cases next

theorem NumberScan.fits_lexeme {scan : NumberScan} (fits : scan.digits < 2 ^ 64) (stop : Nat) :
    (scan.lexeme stop).Fits := by
  simp only [Lexeme.Fits, NumberScan.lexeme, Scalar.Fits]
  split
  next isValue =>
    injection isValue with isValue
    exact NumberScan.fits_of_value fits isValue
  next => trivial

theorem NumberScan.fits_atEnd {scan : NumberScan} (fits : scan.digits < 2 ^ 64) (size : Nat) :
    (scan.atEnd size).Fits := by
  unfold NumberScan.atEnd
  split <;> first | exact NumberScan.fits_lexeme fits size | trivial

/-- A number breaks off in one way only, whichever phase it is in. -/
theorem NumberScan.eq_malformed_of_next {scan : NumberScan} {offset : Nat} {c : Char}
    {lexeme : Lexeme} (broken : scan.next offset c = some (.error lexeme)) :
    lexeme = .malformed scan.lead scan.start .badNumber (offset + 1) := by
  simp only [NumberScan.next] at broken
  repeat' split at broken
  all_goals
    first
    | injection broken with broken
      injection broken with broken
      exact broken.symm
    | cases broken

theorem NumberScan.fits_of_next {scan : NumberScan} {offset : Nat} {c : Char} {lexeme : Lexeme}
    (broken : scan.next offset c = some (.error lexeme)) : lexeme.Fits := by
  rw [NumberScan.eq_malformed_of_next broken]
  trivial

theorem StringScan.fits_lexeme (scan : StringScan) (stop : Nat) : (scan.lexeme stop).Fits := by
  simp only [Lexeme.Fits, StringScan.lexeme, Scalar.Fits]

theorem StringScan.fits_of_next {scan : StringScan} {offset : Nat} {c : Char} {lexeme : Lexeme}
    (complete : scan.next offset c = .error lexeme) : lexeme.Fits := by
  simp only [StringScan.next] at complete
  repeat' split at complete
  all_goals
    first
    | injection complete with complete
      subst complete
      first | exact StringScan.fits_lexeme _ _ | trivial
    | cases complete

namespace Scan

def StepFits (step : List Lexeme × Scan) : Prop :=
  (∀ lexeme ∈ step.1, lexeme.Fits) ∧ step.2.Fits

theorem stepFits_begin (offset : Nat) (c : Char) : StepFits (begin offset c) := by
  have digitFits : c.toNat - 48 < 2 ^ 64 := by
    have charFits : c.toNat < 2 ^ 32 := c.val.toNat_lt
    omega
  unfold begin
  dsimp only
  -- No character completes a scalar on its own, and the words that one begins are no numbers.
  repeat' refine iteInduction (motive := StepFits) (fun _ => ?_) (fun _ => ?_)
  all_goals
    first
    | exact ⟨List.forall_mem_nil _, trivial⟩
    | exact ⟨List.forall_mem_singleton.mpr trivial, trivial⟩
    | exact ⟨List.forall_mem_nil _, digitFits⟩
    | exact ⟨List.forall_mem_nil _, Nat.two_pow_pos 64⟩

theorem stepFits_next {scan : Scan} (fits : scan.Fits) (offset : Nat) (c : Char) :
    StepFits (scan.next offset c) := by
  obtain ⟨complete, after⟩ := stepFits_begin offset c
  cases scan with
  | blank => exact stepFits_begin offset c
  | word start lead expected value =>
    cases expected with
    | nil => exact ⟨List.forall_mem_cons.mpr ⟨fits, complete⟩, after⟩
    | cons first rest =>
      simp only [next]
      split
      next =>
        split
        next => exact ⟨List.forall_mem_singleton.mpr fits, trivial⟩
        next => exact ⟨List.forall_mem_nil _, fits⟩
      next => exact ⟨List.forall_mem_singleton.mpr trivial, trivial⟩
  | number inner =>
    simp only [next]
    split
    next more => exact ⟨List.forall_mem_nil _, NumberScan.fits_of_next_ok fits more⟩
    next broken => exact ⟨List.forall_mem_singleton.mpr (inner.fits_of_next broken), trivial⟩
    next =>
      have numberFits := NumberScan.fits_lexeme fits offset
      exact ⟨List.forall_mem_cons.mpr ⟨numberFits, complete⟩, after⟩
  | string inner =>
    simp only [next]
    split
    next => exact ⟨List.forall_mem_nil _, trivial⟩
    next broken =>
      refine ⟨List.forall_mem_singleton.mpr (inner.fits_of_next broken), ?_⟩
      dsimp only
      split <;> trivial
  | stopped => exact ⟨List.forall_mem_nil _, trivial⟩

theorem fits_atEnd {scan : Scan} (fits : scan.Fits) (size : Nat) :
    ∀ lexeme ∈ scan.atEnd size, lexeme.Fits := by
  cases scan with
  | blank | stopped => exact List.forall_mem_nil _
  | word => exact List.forall_mem_singleton.mpr trivial
  | number inner => exact List.forall_mem_singleton.mpr (NumberScan.fits_atEnd fits size)
  | string inner => exact List.forall_mem_singleton.mpr trivial

theorem fits_lexemes {scan : Scan} (fits : scan.Fits) (offset : Nat) (chars : List Char) :
    ∀ lexeme ∈ scan.lexemes offset chars, lexeme.Fits := by
  induction chars generalizing scan offset with
  | nil => exact fits_atEnd fits offset
  | cons c rest inductionHypothesis =>
    obtain ⟨complete, after⟩ := stepFits_next fits offset c
    exact List.forall_mem_append.mpr ⟨complete, inductionHypothesis after _⟩

end Scan

theorem Lexeme.fits_ofText (text : String) : ∀ lexeme ∈ Lexeme.ofText text, lexeme.Fits :=
  have blankFits : Scan.Fits .blank := trivial
  Scan.fits_lexemes blankFits 0 text.toList

/-! ## Trees -/

mutual

def Tree.Fits : Tree → Prop
  | .scalar _ _ value => value.Fits
  | .array _ items => items.Fits
  | .object _ members => members.Fits
  | .broken _ _ _ _ => True

def Items.Fits : Items → Prop
  | .nil _ => True
  | .cons head _ tail => head.Fits ∧ tail.Fits

def Members.Fits : Members → Prop
  | .nil _ => True
  | .unvalued _ _ => True
  | .cons _ value _ tail => value.Fits ∧ tail.Fits

end

theorem Tree.Fits.array {items : Items} (fits : items.Fits) (start : Nat) :
    (Tree.array start items).Fits := fits

theorem Tree.Fits.object {members : Members} (fits : members.Fits) (start : Nat) :
    (Tree.object start members).Fits := fits

theorem Tree.fits_broken (lead : Option Char) (start : Nat) (read skipped : Defect) :
    (Tree.broken lead start read skipped).Fits := trivial

theorem Items.fits_nil (close : ListEnd) : (Items.nil close).Fits := trivial

theorem Members.fits_nil (close : ObjectEnd) : (Members.nil close).Fits := trivial

theorem Members.fits_unvalued (key : Key) (defect : Defect) :
    (Members.unvalued key defect).Fits := trivial

theorem Items.fits_ofReversed {items : List (Tree × Nat)} (fit : ∀ item ∈ items, item.1.Fits)
    (close : ListEnd) : (Items.ofReversed items close).Fits := by
  have general : ∀ tail : Items, tail.Fits →
      (items.foldl (fun tail item => .cons item.1 item.2 tail) tail).Fits := by
    induction items with
    | nil => exact fun tail fits => fits
    | cons item rest inductionHypothesis =>
      intro tail fits
      obtain ⟨first, others⟩ := List.forall_mem_cons.mp fit
      exact inductionHypothesis others _ ⟨first, fits⟩
  exact general _ trivial

theorem Members.fits_ofReversed {members : List OpenMember}
    (fit : ∀ member ∈ members, member.value.Fits) {tail : Members} (fits : tail.Fits) :
    (Members.ofReversed members tail).Fits := by
  induction members generalizing tail with
  | nil => exact fits
  | cons member rest inductionHypothesis =>
    obtain ⟨first, others⟩ := List.forall_mem_cons.mp fit
    have consFits : (Members.cons member.key member.value member.settled tail).Fits := ⟨first, fits⟩
    exact inductionHypothesis others consFits

/-! ## The machine -/

def OpenFrame.Fits : OpenFrame → Prop
  | .list _ items => ∀ item ∈ items, item.1.Fits
  | .object _ members _ => ∀ member ∈ members, member.value.Fits

theorem Tree.fits_breakOff (size : Nat) {tree : Tree} (fits : tree.Fits) {frames : List OpenFrame}
    (around : ∀ frame ∈ frames, frame.Fits) : (tree.breakOff size frames).Fits := by
  induction frames generalizing tree with
  | nil => exact fits
  | cons frame rest inductionHypothesis =>
    obtain ⟨first, others⟩ := List.forall_mem_cons.mp around
    refine inductionHypothesis ?_ others
    cases frame with
    | list start items => exact Items.fits_ofReversed (List.forall_mem_cons.mpr ⟨fits, first⟩) _
    | object start members key =>
      exact Members.fits_ofReversed (List.forall_mem_cons.mpr ⟨fits, first⟩) trivial

namespace Want

/-- Whether all numbers that the machine has taken so far fit. -/
def Fits : Want → Prop
  | .separator done => done.Fits
  | .nextKey _ members | .colon _ members _ => ∀ member ∈ members, member.value.Fits
  | _ => True

def StateFits : State → Prop
  | .inl (want, frames) => want.Fits ∧ ∀ frame ∈ frames, frame.Fits
  | .inr (tree, _) => tree.Fits

variable {tree : Tree} {frames outer : List OpenFrame} {lexeme : Lexeme} {members : List OpenMember}

theorem stateFits_complete (fits : tree.Fits) (around : ∀ frame ∈ frames, frame.Fits)
    (rest : List Lexeme) : StateFits (complete tree frames rest) := by
  unfold complete
  split
  next => exact fits
  next => exact ⟨fits, around⟩

theorem stateFits_broken (size : Nat) (fits : tree.Fits) (around : ∀ frame ∈ frames, frame.Fits) :
    StateFits (broken size tree frames) :=
  Tree.fits_breakOff size fits around

theorem stateFits_takeValue (size : Nat) (around : ∀ frame ∈ frames, frame.Fits)
    (fits : lexeme.Fits) (rest : List Lexeme) :
    StateFits (takeValue size frames lexeme rest) := by
  obtain ⟨token, lead, start, stop⟩ := lexeme
  cases token with
  | openList => exact ⟨trivial, around⟩
  | openObject => exact ⟨trivial, around⟩
  | scalar value =>
    have scalarFits : (Tree.scalar start stop value).Fits := fits
    exact stateFits_complete scalarFits around rest
  | broken | closeList | closeObject | comma | colon =>
    exact stateFits_broken size (Tree.fits_broken _ _ _ _) around

theorem stateFits_takeKey (size start : Nat) (inside : ∀ member ∈ members, member.value.Fits)
    (around : ∀ frame ∈ frames, frame.Fits) (rest : List Lexeme) :
    StateFits (takeKey size start members frames lexeme rest) := by
  unfold takeKey
  split
  next => exact ⟨inside, around⟩
  next =>
    exact stateFits_broken size
      (.object (Members.fits_ofReversed inside (Members.fits_nil _)) start) around

theorem stateFits_afterItem (size start : Nat) {items : List (Tree × Nat)}
    (inside : ∀ item ∈ items, item.1.Fits) (fits : tree.Fits) (around : ∀ frame ∈ outer, frame.Fits)
    (lexeme : Lexeme) (rest : List Lexeme) :
    StateFits (afterItem size start items tree outer lexeme rest) := by
  have grown (settled : Nat) : ∀ item ∈ (tree, settled) :: items, item.1.Fits :=
    List.forall_mem_cons.mpr ⟨fits, inside⟩
  have ended (settled : Nat) (close : ListEnd) :
      (Tree.array start (.ofReversed ((tree, settled) :: items) close)).Fits :=
    Items.fits_ofReversed (grown settled) close
  unfold afterItem
  split
  next => exact stateFits_complete (ended _ _) around _
  next => exact stateFits_broken size (ended _ _) around
  next => exact stateFits_broken size (ended _ _) around
  next => exact ⟨trivial, List.forall_mem_cons.mpr ⟨grown _, around⟩⟩
  next => exact stateFits_broken size (ended _ _) around

theorem stateFits_afterMember (size start : Nat) (inside : ∀ member ∈ members, member.value.Fits)
    (key : Key) (fits : tree.Fits) (around : ∀ frame ∈ outer, frame.Fits)
    (lexeme : Lexeme) (rest : List Lexeme) :
    StateFits (afterMember size start members key tree outer lexeme rest) := by
  have grown (settled : Nat) :
      ∀ member ∈ (⟨key, tree, settled⟩ :: members : List OpenMember), member.value.Fits :=
    List.forall_mem_cons.mpr ⟨fits, inside⟩
  have ended (settled : Nat) (close : ObjectEnd) :
      (Tree.object start (.ofReversed (⟨key, tree, settled⟩ :: members) (.nil close))).Fits :=
    Members.fits_ofReversed (grown settled) (Members.fits_nil close)
  unfold afterMember
  split
  next => exact stateFits_complete (ended _ _) around _
  next => exact stateFits_broken size (ended _ _) around
  next => exact stateFits_broken size (ended _ _) around
  next => exact ⟨grown _, around⟩
  next => exact stateFits_broken size (ended _ _) around

/-- One move keeps all numbers fitting when those of its lexeme fit. -/
theorem stateFits_next (size : Nat) {want : Want} (sofar : want.Fits)
    (around : ∀ frame ∈ frames, frame.Fits) (fits : lexeme.Fits) (rest : List Lexeme) :
    StateFits (want.next size frames lexeme rest) := by
  have nothing : ∀ member ∈ ([] : List OpenMember), member.value.Fits := List.forall_mem_nil _
  cases want with
  | value => exact stateFits_takeValue size around fits rest
  | firstItem start =>
    simp only [next]
    split
    next => exact stateFits_complete (.array (Items.fits_nil _) start) around rest
    next =>
      have opened : (OpenFrame.list start []).Fits := List.forall_mem_nil _
      exact stateFits_takeValue size (List.forall_mem_cons.mpr ⟨opened, around⟩) fits rest
  | firstKey start =>
    simp only [next]
    split
    next => exact stateFits_complete (.object (Members.fits_nil _) start) around rest
    next => exact stateFits_takeKey size start nothing around rest
  | nextKey start members => exact stateFits_takeKey size start sofar around rest
  | colon start members key =>
    simp only [next]
    split
    next => exact ⟨trivial, List.forall_mem_cons.mpr ⟨sofar, around⟩⟩
    next =>
      exact stateFits_broken size
        (.object (Members.fits_ofReversed sofar (Members.fits_unvalued _ _)) start) around
  | separator done =>
    cases frames with
    | nil => exact sofar
    | cons frame outer =>
      obtain ⟨inside, beyond⟩ := List.forall_mem_cons.mp around
      cases frame with
      | list start items => exact stateFits_afterItem size start inside sofar beyond lexeme rest
      | object start members key =>
        exact stateFits_afterMember size start inside key sofar beyond lexeme rest

theorem fits_atEnd (size : Nat) {want : Want} (sofar : want.Fits)
    (around : ∀ frame ∈ frames, frame.Fits) : (want.atEnd size frames).Fits := by
  cases want with
  | value => exact Tree.fits_breakOff size (Tree.fits_broken _ _ _ _) around
  | firstItem start => exact Tree.fits_breakOff size (.array (Items.fits_nil _) start) around
  | firstKey start => exact Tree.fits_breakOff size (.object (Members.fits_nil _) start) around
  | nextKey start members =>
    exact Tree.fits_breakOff size
      (.object (Members.fits_ofReversed sofar (Members.fits_nil _)) start) around
  | colon start members key =>
    exact Tree.fits_breakOff size
      (.object (Members.fits_ofReversed sofar (Members.fits_unvalued _ _)) start) around
  | separator done => exact Tree.fits_breakOff size sofar around

theorem fits_run (size : Nat) {lexemes : List Lexeme} (fit : ∀ lexeme ∈ lexemes, lexeme.Fits)
    {want : Want} (sofar : want.Fits) (around : ∀ frame ∈ frames, frame.Fits) :
    (want.run size frames lexemes).1.Fits := by
  induction lexemes generalizing want frames with
  | nil => exact fits_atEnd size sofar around
  | cons lexeme rest inductionHypothesis =>
    obtain ⟨first, others⟩ := List.forall_mem_cons.mp fit
    have after := stateFits_next size sofar around first rest
    unfold run
    split
    next moved =>
      rw [moved] at after
      exact inductionHypothesis others after.1 after.2
    next ended =>
      rw [ended] at after
      exact after

end Want

theorem Tree.fits_ofText (text : String) : (Tree.ofText text).1.Fits :=
  Want.fits_run _ (Lexeme.fits_ofText text) trivial (List.forall_mem_nil _)

end ConfigBinding
