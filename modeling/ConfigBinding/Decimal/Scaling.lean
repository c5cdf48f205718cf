import ConfigBinding.Decimal.Double

/-!
# Decimals by arithmetic on doubles

Digits and a power of ten can be made a double by one multiplication or division of doubles. The
digits, the power and the result are each rounded, so this is quick but not always the double
nearest to the decimal (`Decimal.nearest`).

* `Magnitude.times`, `Magnitude.dividedBy`: products and quotients of magnitudes, rounded;
* `Magnitude.scaled`: digits times a power of ten.
-/

namespace ConfigBinding.Magnitude

/-- The magnitude nearest to a product; `none` when it is too large. -/
def times (m factor : Magnitude) : Option Magnitude :=
  nearest (m.units * factor.units) (Nat.pow 2 (2 * exponentBias))

def dividedBy (m divisor : Magnitude) : Option Magnitude :=
  nearest m.units divisor.units

/-- The exponent of the greatest power of ten that is not too large. -/
def greatestPower : Nat := 308

def tenTo (power : Nat) : Option Magnitude := nearest (Nat.pow 10 power) 1

/-- A magnitude divided so many times by the greatest power of ten, or until nothing is left. -/
def lowered (m : Magnitude) : Nat → Option Magnitude
  | 0 => some m
  | count + 1 =>
    if m.mantissa = 0 then some m
    else do (← m.dividedBy (← tenTo greatestPower)).lowered count

/-- Digits times a power of ten, each rounded and then the result; `none` when it is too large. -/
def scaled (digits : Nat) (exponent : Int) : Option Magnitude := do
  let m ← nearest digits 1
  if 0 ≤ exponent then
    if exponent ≤ greatestPower then m.times (← tenTo exponent.toNat)
    else if m.mantissa = 0 then some m
    else none
  else
    let steps := ((-exponent).toNat - 1) / greatestPower
    (← m.lowered steps).dividedBy (← tenTo ((-exponent).toNat - greatestPower * steps))

end ConfigBinding.Magnitude
