import ObfuscationMap.Decimal.Binary

/-!
# The shortest decimal of a binary number

A stored number is shown by the shortest decimal that lies among the values to
which the number is the nearest, and by the nearest one to it if several decimals
are that short.
-/

namespace ObfuscationMap
namespace BinaryNumber

/-- The lower end, the number itself and the upper end of the interval of values
that are stored as a number, in units of a quarter of its last place. -/
def quarters (number : BinaryNumber) : Nat × Nat × Nat :=
  let value := 4 * number.mantissa
  let narrow := number.mantissa == Nat.pow 2 52 && number.exponent > -1074
  (if narrow then value - 1 else value - 2, value, value + 2)

/-- The power of ten of the first significant digit of a positive quotient. -/
def log10 (numerator denominator : Nat) : Int :=
  if denominator ≤ numerator then
    ((Nat.toDigits 10 (numerator / denominator)).length : Int) - 1
  else
    let digits := (Nat.toDigits 10 (denominator / numerator)).length
    if denominator ≤ numerator * Nat.pow 10 (digits - 1) then
      1 - (digits : Int)
    else
      -(digits : Int)

/-- The multiple of a power of ten that is nearest to a number, if it is stored as
that number, as the factor of the power. -/
def onGrid? (number : BinaryNumber) (power : Int) : Option Nat :=
  let (low, value, high) := number.quarters
  let (unit, one) := scale 2 (number.exponent - 2) 1 1
  let (numerator, denominator) := scale 10 (-power) (value * unit) one
  let inside (factor : Nat) : Bool :=
    let (left, right) := scale 10 power (factor * one) unit
    if number.mantissa % 2 == 0 then
      low * right ≤ left && left ≤ high * right
    else
      low * right < left && left < high * right
  let near := roundEven numerator denominator
  let floor := numerator / denominator
  [near, floor, floor + 1].find? inside

/-- The shortest decimal that is stored as a number. -/
def shortest (number : BinaryNumber) : Decimal :=
  if number.mantissa = 0 then
    { factor := 0, power := 0 }
  else
    let first := log10 number.quotient.1 number.quotient.2
    let grids := (List.range 17).map fun (count : Nat) => first - (count : Int)
    (grids.findSome? fun power =>
      (number.onGrid? power).map fun factor => Decimal.withoutZeros factor power).getD
        { factor := 0, power := 0 }

end BinaryNumber
end ObfuscationMap
