import ConfigBinding.Proofs.Decimal.Nearest

/-!
# Whole numbers among the doubles

A whole number of at most 53 bits is the value of a double, so the double nearest to it loses
nothing.

* `Double.IsWhole`: whether a double is a whole number, exactly;
* `Double.isWhole_int32`: the double that a 32-bit integer is.
-/

namespace ConfigBinding

namespace Magnitude

/-- A whole number of at most 53 bits, shifted until it has all of them, is a mantissa. -/
theorem exists_units_eq {n : Nat} (bits : n < 2 ^ 53) :
    ∃ m : Magnitude, m.units = n * 2 ^ exponentBias := by
  have bias : exponentBias = 1074 := rfl
  obtain rfl | positive := Nat.eq_zero_or_pos n
  · refine ⟨zero, ?_⟩
    rw [units, zero, Nat.zero_mul, Nat.zero_mul]
  · have few : n.log2 < 53 := (Nat.log2_lt positive.ne').mpr bits
    obtain ⟨shift, shifted⟩ : ∃ shift, n.log2 + shift = 52 := ⟨52 - n.log2, by omega⟩
    have full : 2 ^ 52 ≤ n * 2 ^ shift := by
      rw [← shifted, Nat.pow_add]
      exact Nat.mul_le_mul_right _ (Nat.log2_self_le positive.ne')
    have below : n * 2 ^ shift < 2 ^ 53 := by
      calc n * 2 ^ shift < 2 ^ (n.log2 + 1) * 2 ^ shift :=
            Nat.mul_lt_mul_of_pos_right Nat.lt_log2_self (Nat.two_pow_pos _)
        _ = 2 ^ 53 := by rw [← Nat.pow_add, Nat.add_right_comm, shifted]
    have unshifted : shift + (n.log2 + 1022) = exponentBias := by omega
    refine ⟨⟨n * 2 ^ shift, n.log2 + 1022, below, by omega, .inr full⟩, ?_⟩
    simp only [units, Nat.pow_eq]
    rw [Nat.mul_assoc, ← Nat.pow_add, unshifted]

/-- The magnitude of a whole number is the nearest to it. -/
theorem nearest_whole {m : Magnitude} {n : Nat} (same : m.units = n * 2 ^ exponentBias) :
    nearest n 1 = some m := by
  rw [← nearest_units m]
  apply nearest_congr Nat.one_pos (Nat.two_pow_pos _)
  rw [same, Nat.mul_one]

end Magnitude

namespace Double

/-- Whether a double is a whole number: its sign, and its magnitude in units of `2 ^ -1074`. Of the
    two zeros only the positive one is the number zero. -/
def IsWhole (d : Double) (n : Int) : Prop :=
  ∃ m : Magnitude, d = .finite (n < 0) m ∧ m.units = n.natAbs * 2 ^ exponentBias

theorem isWhole_iff {d : Double} {n : Int} (bits : n.natAbs < 2 ^ 53) :
    d.IsWhole n ↔ d = ofInt n := by
  constructor
  · rintro ⟨m, rfl, same⟩
    rw [ofInt, Magnitude.nearest_whole same]
    rfl
  · rintro rfl
    obtain ⟨m, same⟩ := Magnitude.exists_units_eq bits
    refine ⟨m, ?_, same⟩
    rw [ofInt, Magnitude.nearest_whole same]
    rfl

/-- Every 32-bit integer is exactly one double. -/
theorem isWhole_int32 {d : Double} {n : Int32} : d.IsWhole n.toInt ↔ d = ofInt n.toInt := by
  have lower := Int32.minValue_le_toInt n
  have upper := Int32.toInt_le n
  simp only [Int32.toInt_minValue, Int32.toInt_maxValue] at lower upper
  exact isWhole_iff (by omega)

end Double

end ConfigBinding
