import ConfigBinding.Decimal.Double

/-!
# Shortest decimals

The decimal that stands for a finite double in text: of those that read back to it, one with the
fewest digits, and of these the nearest.

`Magnitude.shortest` looks at ever finer decimal grids. On each, only the two neighbours of the
value can be nearest, and the first grid on which one of them reads back gives the answer. A
candidate is accepted only when `Decimal.nearest` gives the magnitude back, so what is printed
always reads back.
-/

namespace ConfigBinding

/-- Where a tie between two equally near decimals goes. -/
inductive TieRule where
  | up
  | even
  deriving DecidableEq

def digitCount (n : Nat) : Nat := (Nat.toDigits 10 n).length

namespace Magnitude

def reads (m : Magnitude) (d : Decimal) : Bool := d.nearest = some m

/-- The position of the leading digit: `0` for the units, `-1` for the tenths. -/
def leadingPosition (m : Magnitude) : Int :=
  let unit := Nat.pow 2 exponentBias
  if unit ≤ m.units then (digitCount (m.units / unit) : Int) - 1
  else -(digitCount (unit / m.units) : Int)

/-- The neighbour on the grid of multiples of `10 ^ scale` that reads back to this magnitude, the
    nearer one if both do. -/
def onGrid (tie : TieRule) (m : Magnitude) (scale : Int) : Option Decimal :=
  let numerator := m.units * Nat.pow 10 (-scale).toNat
  let denominator := Nat.pow 2 exponentBias * Nat.pow 10 scale.toNat
  let low := numerator / denominator
  let rest := numerator % denominator
  let below : Decimal := ⟨low, scale⟩
  let above : Decimal := ⟨low + 1, scale⟩
  let preferBelow : Bool :=
    2 * rest < denominator || (2 * rest == denominator && tie == .even && low % 2 == 0)
  if preferBelow then
    if m.reads below then some below else if m.reads above then some above else none
  else
    if m.reads above then some above else if m.reads below then some below else none

def exact (m : Magnitude) : Decimal := ⟨m.units * Nat.pow 5 exponentBias, -(exponentBias : Int)⟩

/-- The decimal with the fewest digits that reads back to this magnitude. Seventeen digits are
    always enough; the exact value stands behind them so that every magnitude has an answer. -/
def shortest (tie : TieRule) (m : Magnitude) : Decimal :=
  let leading := m.leadingPosition
  ((List.range 17).findSome? fun (finer : Nat) => m.onGrid tie (leading - finer)).getD m.exact

end Magnitude

end ConfigBinding
