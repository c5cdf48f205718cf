import Mathlib.Algebra.Order.Ring.Nat
import Mathlib.Data.Nat.Log
import Mathlib.Tactic.Ring
import ConfigBinding.Decimal.Shortest

/-!
# The nearest magnitude

The magnitude nearest to a number depends on the number alone, not on the quotient or the decimal
that writes it, and every magnitude is the nearest to its own shortest decimal.

* `Magnitude.nearest_congr`, `Decimal.nearest_shift`: other quotients and decimals of one number;
* `Magnitude.nearest_units`: the magnitude nearest to the value of a magnitude;
* `Magnitude.nearest_isSome`: numbers that are not too large have a nearest magnitude;
* `Magnitude.nearest_shortest`: the shortest decimal of a magnitude reads back.
-/

namespace ConfigBinding

namespace Magnitude

/-! ## Rounding -/

theorem roundHalfEven_mul (numerator denominator : Nat) {factor : Nat} (positive : 0 < factor) :
    roundHalfEven (numerator * factor) (denominator * factor) =
      roundHalfEven numerator denominator := by
  have less : 2 * (numerator % denominator * factor) < denominator * factor ↔
      2 * (numerator % denominator) < denominator := by
    rw [← Nat.mul_assoc]
    exact Nat.mul_lt_mul_right positive
  have equal : 2 * (numerator % denominator * factor) = denominator * factor ↔
      2 * (numerator % denominator) = denominator := by
    rw [← Nat.mul_assoc]
    exact Nat.mul_left_inj positive.ne'
  simp only [roundHalfEven, Nat.mul_div_mul_right _ _ positive, Nat.mul_mod_mul_right, less, equal]

theorem roundHalfEven_of_mul (whole : Nat) {denominator : Nat} (positive : 0 < denominator) :
    roundHalfEven (whole * denominator) denominator = whole := by
  simp [roundHalfEven, positive]

theorem le_roundHalfEven (numerator denominator : Nat) :
    numerator / denominator ≤ roundHalfEven numerator denominator := by
  simp only [roundHalfEven]
  split
  · exact le_rfl
  · split <;> omega

theorem roundHalfEven_le (numerator denominator : Nat) :
    roundHalfEven numerator denominator ≤ numerator / denominator + 1 := by
  simp only [roundHalfEven]
  split
  · omega
  · split <;> omega

/-! ## Exponents -/

def exponentFor (whole : Nat) : Nat := if whole < Nat.pow 2 53 then 0 else whole.log2 - 52

/-- With that exponent the whole part of the mantissa has at most 53 bits, and 53 unless the
    exponent is zero. -/
theorem exponentFor_spec (whole : Nat) :
    whole / 2 ^ exponentFor whole < 2 ^ 53 ∧
      (exponentFor whole = 0 ∨ 2 ^ 52 ≤ whole / 2 ^ exponentFor whole) := by
  rw [exponentFor, Nat.pow_eq]
  split
  next small => exact ⟨(Nat.div_le_self _ _).trans_lt small, .inl rfl⟩
  next large =>
    rw [Nat.not_lt] at large
    have nonzero : whole ≠ 0 := (Nat.lt_of_lt_of_le (Nat.two_pow_pos _) large).ne'
    have bits : 53 ≤ whole.log2 := (Nat.le_log2 nonzero).mpr large
    have lower : 2 ^ 52 * 2 ^ (whole.log2 - 52) ≤ whole := by
      rw [← Nat.pow_add, Nat.add_sub_cancel' (by omega)]
      exact Nat.log2_self_le nonzero
    have upper : whole < 2 ^ 53 * 2 ^ (whole.log2 - 52) := by
      rw [← Nat.pow_add, show 53 + (whole.log2 - 52) = whole.log2 + 1 by omega]
      exact Nat.lt_log2_self
    exact ⟨(Nat.div_lt_iff_lt_mul (Nat.two_pow_pos _)).mpr upper,
      .inr ((Nat.le_div_iff_mul_le (Nat.two_pow_pos _)).mpr lower)⟩

theorem lt_exponentFor {whole : Nat} (large : 2 ^ (1024 + exponentBias) ≤ whole) :
    2045 < exponentFor whole := by
  have bias : exponentBias = 1074 := rfl
  have nonzero : whole ≠ 0 := (Nat.lt_of_lt_of_le (Nat.two_pow_pos _) large).ne'
  have bits : 1024 + exponentBias ≤ whole.log2 := (Nat.le_log2 nonzero).mpr large
  have notSmall : 2 ^ 53 ≤ whole := (Nat.pow_le_pow_right (by decide) (by omega)).trans large
  rw [exponentFor, Nat.pow_eq, if_neg (by omega)]
  omega

theorem exponentFor_lt {whole : Nat} (small : whole < 2 ^ (1023 + exponentBias)) :
    exponentFor whole < 2045 := by
  have bias : exponentBias = 1074 := rfl
  rw [exponentFor, Nat.pow_eq]
  split
  · decide
  · have nonzero : whole ≠ 0 := by omega
    have bits : whole.log2 < 1023 + exponentBias := (Nat.log2_lt nonzero).mpr small
    omega

/-- A magnitude has the exponent that its value needs. -/
theorem exponentFor_units (m : Magnitude) : exponentFor m.units = m.exponent := by
  obtain ⟨mantissa, exponent, below, -, normal⟩ := m
  rw [exponentFor, units]
  simp only [Nat.pow_eq] at *
  obtain rfl | positive := Nat.eq_zero_or_pos exponent
  · rw [if_pos (by simpa using below)]
  · have atLeast : 2 ^ (52 + exponent) ≤ mantissa * 2 ^ exponent := by
      rw [Nat.pow_add]
      exact Nat.mul_le_mul_right _ (normal.resolve_left positive.ne')
    have less : mantissa * 2 ^ exponent < 2 ^ (52 + exponent + 1) := by
      rw [Nat.add_right_comm, Nat.pow_add 2 (52 + 1)]
      exact Nat.mul_lt_mul_of_pos_right below (Nat.two_pow_pos _)
    have nonzero : mantissa * 2 ^ exponent ≠ 0 :=
      (Nat.lt_of_lt_of_le (Nat.two_pow_pos _) atLeast).ne'
    have large : 2 ^ 53 ≤ mantissa * 2 ^ exponent :=
      (Nat.pow_le_pow_right (by decide) (by omega)).trans atLeast
    rw [if_neg (by omega), (Nat.log2_eq_iff nonzero).mpr ⟨atLeast, less⟩]
    omega

theorem ofParts?_self (m : Magnitude) : ofParts? m.mantissa m.exponent = some m := by
  rw [ofParts?, dif_pos ⟨m.mantissa_lt, m.exponent_le, m.normal⟩]

theorem ofParts?_isSome {mantissa exponent : Nat} (bits : mantissa < 2 ^ 53)
    (small : exponent ≤ 2045) (normal : exponent = 0 ∨ 2 ^ 52 ≤ mantissa) :
    (ofParts? mantissa exponent).isSome := by
  rw [ofParts?, dif_pos ⟨bits, small, normal⟩]
  rfl

theorem ofParts?_of_large (mantissa : Nat) {exponent : Nat} (large : 2045 < exponent) :
    ofParts? mantissa exponent = none := by
  rw [ofParts?, dif_neg]
  omega

/-! ## Quotients -/

/-- The whole units of a quotient. -/
def wholeUnits (numerator denominator : Nat) : Nat :=
  numerator * Nat.pow 2 exponentBias / denominator

/-- The mantissa of a quotient with an exponent. -/
def mantissaFor (numerator denominator exponent : Nat) : Nat :=
  roundHalfEven (numerator * Nat.pow 2 exponentBias) (denominator * Nat.pow 2 exponent)

theorem nearest_eq (numerator denominator : Nat) :
    nearest numerator denominator =
      let exponent := exponentFor (wholeUnits numerator denominator)
      let mantissa := mantissaFor numerator denominator exponent
      if mantissa = Nat.pow 2 53 then ofParts? (Nat.pow 2 52) (exponent + 1)
      else ofParts? mantissa exponent := rfl

theorem wholeUnits_eq (numerator denominator : Nat) :
    wholeUnits numerator denominator = numerator * 2 ^ exponentBias / denominator := by
  simp only [wholeUnits, Nat.pow_eq]

theorem mantissaFor_eq (numerator denominator exponent : Nat) :
    mantissaFor numerator denominator exponent =
      roundHalfEven (numerator * 2 ^ exponentBias) (denominator * 2 ^ exponent) := by
  simp only [mantissaFor, Nat.pow_eq]

theorem nearest_mul (numerator denominator : Nat) {factor : Nat} (positive : 0 < factor) :
    nearest (numerator * factor) (denominator * factor) = nearest numerator denominator := by
  have whole : wholeUnits (numerator * factor) (denominator * factor) =
      wholeUnits numerator denominator := by
    simp only [wholeUnits_eq]
    rw [Nat.mul_right_comm, Nat.mul_div_mul_right _ _ positive]
  have mantissa : ∀ exponent, mantissaFor (numerator * factor) (denominator * factor) exponent =
      mantissaFor numerator denominator exponent := by
    intro exponent
    simp only [mantissaFor_eq]
    rw [Nat.mul_right_comm, Nat.mul_right_comm denominator, roundHalfEven_mul _ _ positive]
  rw [nearest_eq, whole, nearest_eq]
  simp only [mantissa]

/-- Equal quotients have the same nearest magnitude. -/
theorem nearest_congr {numerator denominator numerator' denominator' : Nat}
    (positive : 0 < denominator) (positive' : 0 < denominator')
    (equal : numerator * denominator' = numerator' * denominator) :
    nearest numerator denominator = nearest numerator' denominator' := by
  rw [← nearest_mul numerator denominator positive', equal, Nat.mul_comm denominator,
    nearest_mul _ _ positive]

/-- A magnitude is the nearest to its own value. -/
theorem nearest_units (m : Magnitude) : nearest m.units (2 ^ exponentBias) = some m := by
  have whole : wholeUnits m.units (2 ^ exponentBias) = m.units := by
    rw [wholeUnits_eq, Nat.mul_div_cancel _ (Nat.two_pow_pos _)]
  have mantissa : mantissaFor m.units (2 ^ exponentBias) m.exponent = m.mantissa := by
    have split : m.units * 2 ^ exponentBias = m.mantissa * (2 ^ exponentBias * 2 ^ m.exponent) := by
      rw [units, Nat.pow_eq]
      ring
    rw [mantissaFor_eq, split, roundHalfEven_of_mul]
    exact Nat.mul_pos (Nat.two_pow_pos _) (Nat.two_pow_pos _)
  rw [nearest_eq, whole, exponentFor_units]
  simp only [mantissa]
  rw [if_neg m.mantissa_lt.ne, ofParts?_self]

/-- Numbers below half of the least magnitude are nearest to zero. -/
theorem nearest_of_small {numerator denominator : Nat}
    (small : 2 * (numerator * 2 ^ exponentBias) < denominator) :
    nearest numerator denominator = some zero := by
  have whole : wholeUnits numerator denominator = 0 := by
    rw [wholeUnits_eq, Nat.div_eq_of_lt (by omega)]
  have exponent : exponentFor 0 = 0 := rfl
  have mantissa : mantissaFor numerator denominator 0 = 0 := by
    have rest : numerator * 2 ^ exponentBias % denominator = numerator * 2 ^ exponentBias :=
      Nat.mod_eq_of_lt (by omega)
    rw [wholeUnits_eq] at whole
    rw [mantissaFor_eq, Nat.pow_zero, Nat.mul_one, roundHalfEven]
    simp only [rest, if_pos small, whole]
  rw [nearest_eq, whole, exponent]
  simp only [mantissa]
  rfl

/-- Numbers whose exponent is too large have no nearest magnitude. -/
theorem nearest_of_large {numerator denominator : Nat}
    (large : 2045 < exponentFor (wholeUnits numerator denominator)) :
    nearest numerator denominator = none := by
  rw [nearest_eq]
  dsimp only
  split
  · exact ofParts?_of_large _ (by omega)
  · exact ofParts?_of_large _ large

/-- Numbers whose exponent is below the greatest have a nearest magnitude. -/
theorem nearest_isSome {numerator denominator : Nat}
    (below : exponentFor (wholeUnits numerator denominator) < 2045) :
    (nearest numerator denominator).isSome := by
  have spec := exponentFor_spec (wholeUnits numerator denominator)
  rw [nearest_eq]
  generalize exponentFor (wholeUnits numerator denominator) = exponent at *
  rw [wholeUnits_eq, Nat.div_div_eq_div_mul] at spec
  have atLeast := le_roundHalfEven (numerator * 2 ^ exponentBias) (denominator * 2 ^ exponent)
  have atMost := roundHalfEven_le (numerator * 2 ^ exponentBias) (denominator * 2 ^ exponent)
  rw [← mantissaFor_eq] at atLeast atMost
  dsimp only
  split
  next => exact ofParts?_isSome (by decide) below (.inr (Nat.le_refl _))
  next notFull =>
    rw [Nat.pow_eq] at notFull
    exact ofParts?_isSome (by omega) below.le (by omega)

end Magnitude

/-! ## Decimals -/

theorem two_pow_le_ten_pow (power : Nat) : 2 ^ (3 * power) ≤ 10 ^ power := by
  rw [Nat.pow_mul]
  exact Nat.pow_le_pow_left (by decide) power

namespace Decimal

/-- The quotient that a decimal is. -/
theorem nearest_eq (d : Decimal) :
    d.nearest =
      Magnitude.nearest (d.digits * 10 ^ d.exponent.toNat) (10 ^ (-d.exponent).toNat) := by
  have bias : exponentBias = 1074 := rfl
  obtain ⟨digits, exponent⟩ := d
  -- Decimals that are zero, too large or too small are told apart before any power is computed;
  -- their quotients have the same nearest magnitude.
  simp only [Decimal.nearest, Nat.pow_eq]
  split
  next zero =>
    rw [zero, Nat.zero_mul, Magnitude.nearest_of_small]
    rw [Nat.zero_mul]
    exact Nat.pow_pos (by decide)
  next nonzero =>
  split
  next large =>
    have noFraction : (-exponent).toNat = 0 := by omega
    rw [Magnitude.nearest_of_large (Magnitude.lt_exponentFor _)]
    rw [Magnitude.wholeUnits_eq, noFraction, Nat.pow_zero, Nat.div_one, Nat.pow_add]
    apply Nat.mul_le_mul_right
    calc 2 ^ 1024 ≤ 2 ^ (3 * exponent.toNat) := Nat.pow_le_pow_right (by decide) (by omega)
      _ ≤ 10 ^ exponent.toNat := two_pow_le_ten_pow _
      _ ≤ digits * 10 ^ exponent.toNat := Nat.le_mul_of_pos_left _ (by omega)
  next =>
  split
  next small =>
    have onlyFraction : exponent.toNat = 0 := by omega
    rw [onlyFraction, Nat.pow_zero, Nat.mul_one, Magnitude.nearest_of_small]
    calc 2 * (digits * 2 ^ exponentBias)
        < 2 * (2 ^ (digits.log2 + 1) * 2 ^ exponentBias) :=
          Nat.mul_lt_mul_of_pos_left
            (Nat.mul_lt_mul_of_pos_right Nat.lt_log2_self (Nat.two_pow_pos _)) (by decide)
      _ = 2 ^ (1 + (digits.log2 + 1 + exponentBias)) := by
        rw [Nat.pow_add 2 1, Nat.pow_add 2 (digits.log2 + 1), Nat.pow_one]
      _ ≤ 2 ^ (3 * (-exponent).toNat) := Nat.pow_le_pow_right (by decide) (by omega)
      _ ≤ 10 ^ (-exponent).toNat := two_pow_le_ten_pow _
  next => rfl

/-- A decimal whose leading digit stands too far before the point has no nearest magnitude. -/
theorem nearest_of_large {d : Decimal} (nonzero : d.digits ≠ 0)
    (large : 400 < d.exponent + (Nat.toDigits 10 d.digits).length - 1) : d.nearest = none := by
  have bias : exponentBias = 1074 := rfl
  have digitsLarge : 10 ^ ((Nat.toDigits 10 d.digits).length - 1) ≤ d.digits := by
    by_contra less
    rw [Nat.not_le] at less
    obtain noMore | more := Nat.eq_zero_or_pos ((Nat.toDigits 10 d.digits).length - 1)
    · rw [noMore, Nat.pow_zero] at less
      omega
    · have := (Nat.length_toDigits_le_iff (by decide) more).mpr less
      omega
  have powers : 10 ^ 401 * 10 ^ (-d.exponent).toNat ≤ d.digits * 10 ^ d.exponent.toNat := by
    refine le_trans ?_ (Nat.mul_le_mul_right _ digitsLarge)
    rw [← Nat.pow_add, ← Nat.pow_add]
    exact Nat.pow_le_pow_right (by decide) (by omega)
  rw [nearest_eq, Magnitude.nearest_of_large (Magnitude.lt_exponentFor _)]
  rw [Magnitude.wholeUnits_eq, Nat.le_div_iff_mul_le (Nat.pow_pos (by decide)), pow_add,
    Nat.mul_right_comm]
  have bits : 2 ^ 1024 ≤ 10 ^ 401 :=
    (pow_le_pow_right₀ (by decide) (by decide)).trans (two_pow_le_ten_pow 401)
  exact Nat.mul_le_mul_right _ ((Nat.mul_le_mul_right _ bits).trans powers)

/-- Zeros at the end of the digits count like a higher exponent. -/
theorem nearest_shift (digits zeros : Nat) (exponent : Int) :
    (⟨digits * 10 ^ zeros, exponent⟩ : Decimal).nearest =
      (⟨digits, exponent + zeros⟩ : Decimal).nearest := by
  rw [nearest_eq, nearest_eq]
  apply Magnitude.nearest_congr (Nat.pow_pos (by decide)) (Nat.pow_pos (by decide))
  simp only [Nat.mul_assoc, ← Nat.pow_add]
  congr 2
  omega

end Decimal

namespace Magnitude

theorem nearest_exact (m : Magnitude) : m.exact.nearest = some m := by
  -- The exact decimal is the fraction of units with five to the bias above and below.
  have numerator : (m.exact.digits * 10 ^ m.exact.exponent.toNat) =
      m.units * 5 ^ exponentBias := by
    rw [exact, Nat.pow_eq, show (-(exponentBias : Int)).toNat = 0 by omega, Nat.pow_zero,
      Nat.mul_one]
  have denominator : 10 ^ (-m.exact.exponent).toNat = 2 ^ exponentBias * 5 ^ exponentBias := by
    rw [exact, Int.neg_neg, Int.toNat_natCast, ← Nat.mul_pow]
  rw [Decimal.nearest_eq, numerator, denominator, nearest_mul _ _ (Nat.pow_pos (by decide)),
    nearest_units]

/-- A decimal is only accepted if it reads back. -/
theorem reads_of_onGrid {tie : TieRule} {m : Magnitude} {scale : Int} {d : Decimal}
    (accepted : m.onGrid tie scale = some d) : m.reads d := by
  simp only [onGrid] at accepted
  split at accepted <;> split at accepted
  · cases accepted
    assumption
  · obtain ⟨reads, found⟩ := Option.ite_none_right_eq_some.mp accepted
    cases found
    exact reads
  · cases accepted
    assumption
  · obtain ⟨reads, found⟩ := Option.ite_none_right_eq_some.mp accepted
    cases found
    exact reads

/-- The shortest decimal of a magnitude reads back to it. -/
theorem nearest_shortest (tie : TieRule) (m : Magnitude) : (m.shortest tie).nearest = some m := by
  rw [shortest]
  cases found : (List.range 17).findSome? fun (finer : Nat) =>
      m.onGrid tie (m.leadingPosition - finer) with
  | some d =>
    obtain ⟨finer, -, accepted⟩ := List.exists_of_findSome?_eq_some found
    exact of_decide_eq_true (reads_of_onGrid accepted)
  | none => exact m.nearest_exact

end Magnitude

namespace Double

theorem isFinite_ofMagnitude? {negative : Bool} {m : Option Magnitude} (found : m.isSome) :
    (ofMagnitude? negative m).isFinite := by
  cases m with
  | some m => rfl
  | none => cases found

/-- The double nearest to a whole number that is not too large is finite. -/
theorem isFinite_ofInt {n : Int} (below : n.natAbs < 2 ^ 1023) : (ofInt n).isFinite := by
  apply isFinite_ofMagnitude? (Magnitude.nearest_isSome (Magnitude.exponentFor_lt _))
  rw [Magnitude.wholeUnits_eq, Nat.div_one, pow_add]
  exact Nat.mul_lt_mul_of_pos_right below (Nat.two_pow_pos _)

end Double

end ConfigBinding
