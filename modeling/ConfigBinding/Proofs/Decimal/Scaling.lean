import ConfigBinding.Decimal.Scaling
import ConfigBinding.Proofs.Decimal.WholeDoubles

/-!
# Decimals that are scaled exactly

Digits of at most 53 bits are a double, and so are the powers of ten up to the twenty-second. With
both of them exact, only the product or quotient is rounded.

* `Magnitude.scaled_eq_nearest`: such decimals are scaled to the double nearest to them.
-/

namespace ConfigBinding.Magnitude

theorem exists_tenTo (power : Nat) (small : power ≤ 22) :
    ∃ factor, tenTo power = some factor ∧ factor.units = 10 ^ power * 2 ^ exponentBias := by
  have each : ∀ power < 23,
      (tenTo power).map units = some (10 ^ power * 2 ^ exponentBias) := by decide +kernel
  exact Option.map_eq_some_iff.mp (each power (by omega))

variable {m factor : Magnitude} {digits power : Nat}

theorem times_eq_nearest (ofDigits : m.units = digits * 2 ^ exponentBias)
    (ofPower : factor.units = 10 ^ power * 2 ^ exponentBias) :
    m.times factor = nearest (digits * 10 ^ power) 1 := by
  rw [times, Nat.pow_eq]
  generalize exponentBias = bias at ofDigits ofPower ⊢
  refine nearest_congr (Nat.two_pow_pos _) Nat.one_pos ?_
  rw [ofDigits, ofPower, Nat.two_mul, Nat.pow_add, Nat.mul_one]
  exact Nat.mul_mul_mul_comm _ _ _ _

theorem dividedBy_eq_nearest (ofDigits : m.units = digits * 2 ^ exponentBias)
    (ofPower : factor.units = 10 ^ power * 2 ^ exponentBias) :
    m.dividedBy factor = nearest digits (10 ^ power) := by
  rw [dividedBy, ofDigits, ofPower]
  exact nearest_mul _ _ (Nat.two_pow_pos _)

/-- Digits and powers that are doubles themselves are scaled to the nearest double. -/
theorem scaled_eq_nearest {d : Decimal} (digits : d.digits < 2 ^ 53)
    (power : d.exponent.natAbs ≤ 22) : scaled d.digits d.exponent = d.nearest := by
  obtain ⟨m, ofDigits⟩ := exists_units_eq digits
  rw [scaled, nearest_whole ofDigits, Decimal.nearest_eq, Option.bind_eq_bind, Option.bind_some]
  obtain positive | negative := le_or_gt 0 d.exponent
  · obtain ⟨factor, found, ofPower⟩ := exists_tenTo d.exponent.toNat (by omega)
    have within : d.exponent ≤ greatestPower := by
      rw [greatestPower]
      omega
    have noFraction : (-d.exponent).toNat = 0 := by omega
    rw [if_pos positive, if_pos within, found, noFraction, Nat.pow_zero, Option.bind_some]
    exact times_eq_nearest ofDigits ofPower
  · obtain ⟨factor, found, ofPower⟩ := exists_tenTo (-d.exponent).toNat (by omega)
    have noSteps : ((-d.exponent).toNat - 1) / greatestPower = 0 := by
      rw [greatestPower]
      omega
    have noZeros : d.exponent.toNat = 0 := by omega
    rw [if_neg negative.not_ge, noZeros, Nat.pow_zero, Nat.mul_one]
    dsimp only
    rw [noSteps, lowered, Option.bind_some, Nat.mul_zero, Nat.sub_zero, found, Option.bind_some]
    exact dividedBy_eq_nearest ofDigits ofPower

end ConfigBinding.Magnitude
