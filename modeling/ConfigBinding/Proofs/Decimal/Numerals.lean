import ConfigBinding.Decimal.Numeral
import Mathlib.Data.List.TakeWhile
import Mathlib.Tactic.Common
import Mathlib.Tactic.IntervalCases

/-!
# Numerals read back

A whole number is written as its digits after a minus sign if it is negative, and reads back from
them. A numeral, of whatever form, is made of digits, letters, signs and a point, so it has no comma
in it.

* `digitsFrom_toDigits`: digits read back;
* `Int.toList_toString`: the text of a whole number;
* `readInt32_toString`: a 32-bit integer reads back from its text;
* `not_mem_of_readDouble`: what does not stand in the text of a double.
-/

namespace ConfigBinding

/-! ## Whole numbers -/

theorem digitsFrom_eq (start : Nat) (digits : List Char) :
    digitsFrom start digits = Nat.ofDigitChars 10 digits start := by
  rw [Nat.ofDigitChars_eq_foldl, digitsFrom]
  congr 1
  funext number digit
  rw [digitValue, Nat.mul_comm]
  rfl

theorem digitsFrom_append (start : Nat) (digits more : List Char) :
    digitsFrom start (digits ++ more) = digitsFrom (digitsFrom start digits) more :=
  List.foldl_append

theorem le_digitsFrom (start : Nat) (digits : List Char) : start ≤ digitsFrom start digits := by
  induction digits generalizing start with
  | nil => exact le_rfl
  | cons c rest inductionHypothesis =>
    have later : start * 10 + digitValue c ≤ digitsFrom start (c :: rest) := inductionHypothesis _
    omega

@[simp] theorem digitsFrom_toDigits (n : Nat) : digitsFrom 0 (Nat.toDigits 10 n) = n := by
  rw [digitsFrom_eq, Nat.ofDigitChars_ten_toDigits]

theorem isDigit_of_mem_toDigits {n : Nat} {c : Char} (member : c ∈ Nat.toDigits 10 n) :
    c.isDigit :=
  Nat.isDigit_of_mem_toDigits (by decide) (by decide) member

theorem all_isDigit_toDigits (n : Nat) : (Nat.toDigits 10 n).all Char.isDigit :=
  List.all_eq_true.mpr fun _ => isDigit_of_mem_toDigits

theorem head?_toDigits {n : Nat} (positive : 0 < n) :
    (Nat.toDigits 10 n).head? ≠ some '0' := by
  induction n using Nat.strongRecOn with
  | ind n inductionHypothesis =>
    by_cases small : n < 10
    · rw [Nat.toDigits_of_lt_base small, List.head?_cons]
      interval_cases n <;> decide
    · have shorter := inductionHypothesis (n / 10) (by omega) (by omega)
      rw [Nat.toDigits_of_base_le (by decide) (by omega)]
      cases digits : Nat.toDigits 10 (n / 10) with
      | nil => exact absurd digits Nat.toDigits_ne_nil
      | cons c rest => rwa [digits] at shorter

/-- Only zero itself is written with a zero first. -/
theorem toDigits_eq_zero_cons {n : Nat} {rest : List Char}
    (digits : Nat.toDigits 10 n = '0' :: rest) : rest = [] := by
  obtain rfl | positive := Nat.eq_zero_or_pos n
  · rw [Nat.toDigits_zero] at digits
    exact (List.cons.inj digits).2.symm
  · exact absurd (by rw [digits]; rfl) (head?_toDigits positive)

/-- The text of a whole number: its digits, after a sign if it is negative. -/
theorem Int.toList_toString (z : Int) :
    (toString z).toList =
      (if z < 0 then ['-'] else []) ++ Nat.toDigits 10 z.natAbs := by
  rw [Int.toString_eq_repr, Int.repr_eq_if]
  by_cases negative : z < 0
  · have same : (-z).toNat = z.natAbs := by omega
    rw [if_neg (by omega), if_pos negative, String.toList_append, Nat.repr_eq_ofList_toDigits, same]
    exact congrArg ('-' :: ·) String.toList_ofList
  · have same : z.toNat = z.natAbs := by omega
    rw [if_pos (by omega), if_neg negative, Nat.repr_eq_ofList_toDigits, same]
    exact String.toList_ofList

theorem int32?_toInt (n : Int32) : int32? n.toInt = some n := by
  rw [int32?, if_pos ⟨Int32.minValue_le_toInt n, Int32.toInt_le n⟩, Int32.ofInt_toInt]

/-- No digit is a sign. -/
theorem readSign_toDigits (n : Nat) :
    readSign (Nat.toDigits 10 n) = (false, Nat.toDigits 10 n) := by
  have first := all_isDigit_toDigits n
  cases digits : Nat.toDigits 10 n with
  | nil => rfl
  | cons c rest =>
    rw [digits, List.all_cons, Bool.and_eq_true] at first
    unfold readSign
    split
    next same =>
      cases same
      exact absurd first.1 (by decide)
    next same =>
      cases same
      exact absurd first.1 (by decide)
    next => rfl

theorem readInt32_toString (n : Int32) : readInt32 (toString n.toInt) = some n := by
  have digits : ∀ m : Nat, ((Nat.toDigits 10 m).isEmpty || !(Nat.toDigits 10 m).all Char.isDigit) =
      false := by
    intro m
    simp [all_isDigit_toDigits m, Nat.toDigits_ne_nil]
  have read : int32? n.toInt = some n := int32?_toInt n
  by_cases negative : n.toInt < 0
  · have sign : readSign (toString n.toInt).toList = (true, Nat.toDigits 10 n.toInt.natAbs) := by
      rw [Int.toList_toString, if_pos negative]
      rfl
    have value : -((n.toInt.natAbs : Nat) : Int) = n.toInt := by omega
    simp only [readInt32, sign, digits, Bool.false_eq_true, ↓reduceIte, digitsFrom_toDigits, value,
      read]
  · have sign : readSign (toString n.toInt).toList = (false, Nat.toDigits 10 n.toInt.natAbs) := by
      rw [Int.toList_toString, if_neg negative]
      exact readSign_toDigits _
    have value : ((n.toInt.natAbs : Nat) : Int) = n.toInt := by omega
    simp only [readInt32, sign, digits, Bool.false_eq_true, ↓reduceIte, digitsFrom_toDigits, value,
      read]

/-! ## What numerals are made of -/

/-- Whether a character is neither a digit nor any other that a numeral may have. -/
def IsNoNumeral (c : Char) : Prop :=
  c.isDigit = false ∧ c ∉ ['+', '-', '.', 'e', 'E'] ∧ c.toLower ∉ "infinity nan".toList

theorem mem_of_readSign {chars : List Char} {c : Char} (member : c ∈ chars)
    (other : IsNoNumeral c) :
    c ∈ (readSign chars).2 := by
  unfold readSign
  split
  next rest =>
    obtain rfl | later := List.mem_cons.mp member
    · exact absurd (by simp) other.2.1
    · exact later
  next rest =>
    obtain rfl | later := List.mem_cons.mp member
    · exact absurd (by simp) other.2.1
    · exact later
  next => exact member

theorem not_mem_of_all_isDigit {digits : List Char} (all : digits.all Char.isDigit) {c : Char}
    (other : IsNoNumeral c) : c ∉ digits := by
  intro member
  have isDigit := List.all_eq_true.mp all c member
  rw [other.1] at isDigit
  cases isDigit

theorem not_mem_of_readExponent {chars : List Char} {exponent : Int}
    (reads : readExponent chars = some exponent) {c : Char} (other : IsNoNumeral c) :
    c ∉ chars := by
  intro member
  cases chars with
  | nil => cases member
  | cons mark rest =>
    simp only [readExponent, Option.ite_none_right_eq_some, Bool.and_eq_true, Bool.or_eq_true,
      beq_iff_eq] at reads
    obtain ⟨⟨⟨isMark, -⟩, allDigits⟩, -⟩ := reads
    obtain rfl | later := List.mem_cons.mp member
    · obtain rfl | rfl := isMark <;> exact absurd (by simp) other.2.1
    · exact not_mem_of_all_isDigit allDigits other (mem_of_readSign later other)

theorem not_mem_takeWhile_isDigit (chars : List Char) {c : Char} (other : IsNoNumeral c) :
    c ∉ chars.takeWhile Char.isDigit := by
  intro member
  have isDigit := List.mem_takeWhile_imp member
  rw [other.1] at isDigit
  cases isDigit

theorem mem_dropWhile_isDigit {chars : List Char} {c : Char} (member : c ∈ chars)
    (other : IsNoNumeral c) : c ∈ chars.dropWhile Char.isDigit := by
  rw [← List.takeWhile_append_dropWhile (p := Char.isDigit) (l := chars), List.mem_append] at member
  exact member.resolve_left (not_mem_takeWhile_isDigit chars other)

theorem not_mem_of_readDecimal {chars : List Char} {decimal : Decimal}
    (reads : readDecimal chars = some decimal) {c : Char} (other : IsNoNumeral c) : c ∉ chars := by
  intro member
  have afterWhole := mem_dropWhile_isDigit member other
  unfold readDecimal at reads
  dsimp only at reads
  split at reads
  next afterPoint dropped =>
    rw [dropped] at afterWhole
    split at reads
    next => cases reads
    next =>
      obtain ⟨exponent, isExponent, -⟩ := Option.map_eq_some_iff.mp reads
      obtain rfl | later := List.mem_cons.mp afterWhole
      · exact absurd (by simp) other.2.1
      · exact not_mem_of_readExponent isExponent other (mem_dropWhile_isDigit later other)
  next =>
    split at reads
    next => cases reads
    next =>
      obtain ⟨exponent, isExponent, -⟩ := Option.map_eq_some_iff.mp reads
      exact not_mem_of_readExponent isExponent other afterWhole

/-- A text that reads as a double has only characters of numerals. -/
theorem not_mem_of_readDouble {text : String} {d : Double} (reads : readDouble text = some d)
    {c : Char} (other : IsNoNumeral c) : c ∉ text.toList := by
  intro member
  have inBody := mem_of_readSign member other
  have notNamed : ∀ name : String, name.toList ⊆ "infinity nan".toList →
      String.ofList ((readSign text.toList).2.map Char.toLower) ≠ name := by
    intro name letters same
    refine other.2.2 (letters ?_)
    rw [← same, String.toList_ofList]
    exact List.mem_map_of_mem inBody
  unfold readDouble at reads
  dsimp only at reads
  split at reads
  next isName => exact notNamed _ (by decide) (beq_iff_eq.mp isName)
  next =>
    split at reads
    next isName =>
      rw [Bool.or_eq_true, beq_iff_eq, beq_iff_eq] at isName
      obtain isName | isName := isName
      · exact notNamed _ (by decide) isName
      · exact notNamed _ (by decide) isName
    next =>
      obtain ⟨decimal, isDecimal, -⟩ := Option.map_eq_some_iff.mp reads
      exact not_mem_of_readDecimal isDecimal other inBody

theorem isNoNumeral_comma : IsNoNumeral ',' := by
  refine ⟨by decide, by decide, by decide⟩

theorem readDouble_empty : readDouble "" = none := rfl

end ConfigBinding
