import ConfigBinding.Decimal.Double

/-!
# Numerals

Numbers read from plain text, such as the value of a property.

* `readInt32`: an optional sign and at least one digit, within the bounds of 32 bits;
* `readDouble`: an optional sign, digits with an optional point (at least one digit in all) and an
  optional exponent; or `inf`, `infinity`, `nan` in any case.
-/

namespace ConfigBinding

def digitValue (c : Char) : Nat := c.toNat - 48

/-- The number that digits write, most significant first, continued from `start`. -/
def digitsFrom (start : Nat) (digits : List Char) : Nat :=
  digits.foldl (fun number digit => number * 10 + digitValue digit) start

/-- A sign and what follows it; without a sign the number is not negative. -/
def readSign : List Char → Bool × List Char
  | '-' :: rest => (true, rest)
  | '+' :: rest => (false, rest)
  | rest => (false, rest)

def readInt32 (s : String) : Option Int32 :=
  let (negative, digits) := readSign s.toList
  if digits.isEmpty || !digits.all Char.isDigit then none
  else
    let number : Int := digitsFrom 0 digits
    int32? (if negative then -number else number)

/-- What follows the digits of a numeral: nothing, or an exponent. -/
def readExponent : List Char → Option Int
  | [] => some 0
  | mark :: rest =>
    let (negative, digits) := readSign rest
    if (mark == 'e' || mark == 'E') && !digits.isEmpty && digits.all Char.isDigit then
      let number : Int := digitsFrom 0 digits
      some (if negative then -number else number)
    else none

/-- A numeral without its sign. -/
def readDecimal (chars : List Char) : Option Decimal :=
  let whole := chars.takeWhile Char.isDigit
  let (fraction, rest) :=
    match chars.dropWhile Char.isDigit with
    | '.' :: rest => (rest.takeWhile Char.isDigit, rest.dropWhile Char.isDigit)
    | rest => ([], rest)
  if whole.isEmpty && fraction.isEmpty then none
  else
    (readExponent rest).map fun exponent =>
      ⟨digitsFrom (digitsFrom 0 whole) fraction, exponent - fraction.length⟩

/-- A double in decimal, or one of the names of the numbers that are not finite. -/
def readDouble (s : String) : Option Double :=
  let (negative, body) := readSign s.toList
  let name := String.ofList (body.map Char.toLower)
  if name == "nan" then some .nan
  else if name == "inf" || name == "infinity" then some (.infinite negative)
  else (readDecimal body).map (Double.ofDecimal negative)

end ConfigBinding
