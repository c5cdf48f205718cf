import ConfigBinding.Decimal.Shortest

/-!
# Doubles in text

A finite double is written with the shortest digits that read back. Between two positions of the
leading digit it is written plainly and keeps a fractional digit (`1.0`); outside them it has an
exponent and no needless `.0` (`1e16`). A `DoubleStyle` says where the bounds are and how exponents
look.

* `DoubleStyle.source`: generated source and messages about values;
* `DoubleStyle.json`: JSON text and messages about JSON numbers.
-/

namespace ConfigBinding

/-- The choices in which the ways to write a double differ. -/
structure DoubleStyle where
  /-- The lowest position of the leading digit that is written without an exponent. -/
  leastPlain : Int
  /-- Whether a positive exponent has a plus sign. -/
  plusSign : Bool
  /-- Which of two equally near shortest decimals is taken. -/
  tie : TieRule

namespace DoubleStyle

/-- From `1e-4` to below `1e16` plainly; no plus sign. -/
def source : DoubleStyle := ⟨-4, false, .up⟩

/-- From `1e-5` to below `1e16` plainly; exponents are always signed. -/
def json : DoubleStyle := ⟨-5, true, .even⟩

/-- Digits and the position of the leading one as text. -/
def place (style : DoubleStyle) (digits : List Char) (leading : Int) : List Char :=
  if style.leastPlain ≤ leading ∧ leading < 16 then
    if leading < 0 then
      '0' :: '.' :: List.replicate (-leading - 1).toNat '0' ++ digits
    else
      let wholeCount := leading.toNat + 1
      let whole := digits.take wholeCount
      let fraction := digits.drop wholeCount
      whole ++ List.replicate (wholeCount - whole.length) '0' ++ '.' ::
        (if fraction.isEmpty then ['0'] else fraction)
  else
    let fraction := digits.drop 1
    let sign := if leading < 0 then ['-'] else if style.plusSign then ['+'] else []
    digits.take 1 ++ (if fraction.isEmpty then [] else '.' :: fraction) ++ 'e' :: sign ++
      Nat.toDigits 10 leading.natAbs

def magnitude (style : DoubleStyle) (m : Magnitude) : List Char :=
  if m.mantissa = 0 then ['0', '.', '0']
  else
    let decimal := m.shortest style.tie
    let all := Nat.toDigits 10 decimal.digits
    let digits := (all.reverse.dropWhile (· == '0')).reverse
    style.place digits (decimal.exponent + all.length - 1)

end DoubleStyle

def Double.write (style : DoubleStyle) : Double → String
  | .nan => "NaN"
  | .infinite negative => if negative then "-inf" else "inf"
  | .finite negative m =>
    String.ofList ((if negative then ['-'] else []) ++ style.magnitude m)

end ConfigBinding
