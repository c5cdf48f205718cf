/-!
# Doubles

Double-precision numbers by their exact values. A finite one is a sign and a magnitude `mantissa · 2
^ (exponent - 1074)`; the proof fields of `Magnitude` make the pair unique, so equality of
magnitudes is equality of numbers.

* `Magnitude.nearest`: the magnitude nearest to a quotient, halves to the even mantissa; `none` when
  the quotient is too large for a finite one;
* `Double.ofInt`, `Double.ofDecimal`: the double nearest to a whole number or a decimal;
* `Double.toInt32`: the whole part, held within the bounds of a 32-bit integer.
-/

namespace ConfigBinding

/-- The exponent of two that a magnitude's own exponent is counted from. -/
def exponentBias : Nat := 1074

/-- A finite number without its sign: `mantissa · 2 ^ (exponent - 1074)`. -/
structure Magnitude where
  mantissa : Nat
  exponent : Nat
  mantissa_lt : mantissa < Nat.pow 2 53
  exponent_le : exponent ≤ 2045
  normal : exponent = 0 ∨ Nat.pow 2 52 ≤ mantissa
  deriving DecidableEq

inductive Double where
  | nan
  | infinite (negative : Bool)
  | finite (negative : Bool) (magnitude : Magnitude)
  deriving DecidableEq

/-- A decimal number `digits · 10 ^ exponent`. -/
structure Decimal where
  digits : Nat
  exponent : Int
  deriving DecidableEq

namespace Magnitude

def zero : Magnitude := ⟨0, 0, by decide, by decide, by decide⟩

def ofParts? (mantissa exponent : Nat) : Option Magnitude :=
  if h : mantissa < Nat.pow 2 53 ∧ exponent ≤ 2045 ∧ (exponent = 0 ∨ Nat.pow 2 52 ≤ mantissa) then
    some ⟨mantissa, exponent, h.1, h.2.1, h.2.2⟩
  else none

/-- A magnitude in units of `2 ^ -1074`, of which it is always a whole number. -/
def units (m : Magnitude) : Nat := m.mantissa * Nat.pow 2 m.exponent

/-- A quotient rounded to the nearest whole number, a half to the even one. -/
def roundHalfEven (numerator denominator : Nat) : Nat :=
  let whole := numerator / denominator
  let rest := numerator % denominator
  if 2 * rest < denominator then whole
  else if 2 * rest = denominator ∧ whole % 2 = 0 then whole
  else whole + 1

/-- The magnitude nearest to a quotient. The exponent is the least with which the mantissa stays
    below `2 ^ 53`; rounding up to `2 ^ 53` itself moves to the next exponent. -/
def nearest (numerator denominator : Nat) : Option Magnitude :=
  let scaled := numerator * Nat.pow 2 exponentBias
  let whole := scaled / denominator
  let exponent := if whole < Nat.pow 2 53 then 0 else whole.log2 - 52
  let mantissa := roundHalfEven scaled (denominator * Nat.pow 2 exponent)
  if mantissa = Nat.pow 2 53 then ofParts? (Nat.pow 2 52) (exponent + 1)
  else ofParts? mantissa exponent

end Magnitude

/-- The magnitude nearest to a decimal. Far outside the range of doubles the answer is known without
    forming the power of ten. -/
def Decimal.nearest (d : Decimal) : Option Magnitude :=
  if d.digits = 0 then some Magnitude.zero
  else if d.exponent > 400 then none
  else if d.exponent < -(400 + (d.digits.log2 + 1 : Nat)) then some Magnitude.zero
  else Magnitude.nearest (d.digits * Nat.pow 10 d.exponent.toNat) (Nat.pow 10 (-d.exponent).toNat)

namespace Double

/-- A signed magnitude; one too large is infinite. -/
def ofMagnitude? (negative : Bool) : Option Magnitude → Double
  | some magnitude => .finite negative magnitude
  | none => .infinite negative

def ofDecimal (negative : Bool) (d : Decimal) : Double := ofMagnitude? negative d.nearest

def ofInt (n : Int) : Double := ofMagnitude? (n < 0) (Magnitude.nearest n.natAbs 1)

def zero : Double := .finite false Magnitude.zero

def isFinite : Double → Bool
  | .finite _ _ => true
  | _ => false

/-- The whole part as a 32-bit integer; beyond the bounds the nearer bound, and zero for `NaN`. -/
def toInt32 : Double → Int32
  | .nan => 0
  | .infinite true => Int32.minValue
  | .infinite false => Int32.maxValue
  | .finite negative m =>
    let whole : Int := m.units / Nat.pow 2 exponentBias
    Int32.ofIntClamp (if negative then -whole else whole)

end Double

def int32? (n : Int) : Option Int32 :=
  if Int32.minValue.toInt ≤ n ∧ n ≤ Int32.maxValue.toInt then some (Int32.ofInt n) else none

end ConfigBinding
