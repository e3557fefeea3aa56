import ObfuscationMap.Decimal.Basic

/-!
# Numbers stored in binary

A number is stored with 53 significant binary digits and no exponent below -1074.
What is not of this form is stored as the nearest number that is. A decimal is
stored in steps, each of them rounded: its factor first, then the product or the
quotient with a stored power of ten.

All arithmetic is exact, on quotients of natural numbers.
-/

namespace ObfuscationMap

/-- The number `mantissa * 2 ^ exponent`. -/
structure BinaryNumber where
  mantissa : Nat
  exponent : Int
  deriving DecidableEq

namespace BinaryNumber

/-- A quotient times a power of a base, as a numerator and a denominator. -/
def scale (base : Nat) (power : Int) (numerator denominator : Nat) : Nat × Nat :=
  if power < 0 then
    (numerator, denominator * Nat.pow base power.natAbs)
  else
    (numerator * Nat.pow base power.natAbs, denominator)

/-- The natural number nearest to a quotient; of two that are as near, the even
one. -/
def roundEven (numerator denominator : Nat) : Nat :=
  let floor := numerator / denominator
  let remainder := 2 * (numerator % denominator)
  if remainder > denominator || (remainder == denominator && floor % 2 == 1) then
    floor + 1
  else
    floor

/-- The largest power of two that is at most a positive quotient. -/
def log2 (numerator denominator : Nat) : Int :=
  let guess : Int := (Nat.log2 numerator : Int) - Nat.log2 denominator
  let (low, high) := scale 2 guess denominator numerator
  if low ≤ high then guess else guess - 1

/-- The stored number that is nearest to a quotient. -/
def nearest (numerator denominator : Nat) : BinaryNumber :=
  let exponent := max (-1074) (log2 numerator denominator - 52)
  let (scaledNumerator, scaledDenominator) := scale 2 (-exponent) numerator denominator
  let mantissa := roundEven scaledNumerator scaledDenominator
  if mantissa = Nat.pow 2 53 then
    { mantissa := Nat.pow 2 52, exponent := exponent + 1 }
  else
    { mantissa, exponent }

/-- A number as a numerator and a denominator. -/
def quotient (number : BinaryNumber) : Nat × Nat :=
  scale 2 number.exponent number.mantissa 1

/-- The stored product of two numbers. -/
def times (left right : BinaryNumber) : BinaryNumber :=
  nearest (left.quotient.1 * right.quotient.1) (left.quotient.2 * right.quotient.2)

/-- The stored quotient of two numbers. -/
def dividedBy (left right : BinaryNumber) : BinaryNumber :=
  nearest (left.quotient.1 * right.quotient.2) (left.quotient.2 * right.quotient.1)

/-- The stored power of ten. -/
def tenTo (power : Nat) : BinaryNumber :=
  nearest (Nat.pow 10 power) 1

/-- The greatest power of ten that is stored. -/
def greatestPower : Nat := 308

/-- Divide a number by a power of ten, by the greatest stored one as often as the
power is beyond it. -/
def lower (number : BinaryNumber) (places : Nat) : BinaryNumber :=
  if number.mantissa = 0 then
    number
  else if places ≤ greatestPower then
    number.dividedBy (tenTo places)
  else
    (number.dividedBy (tenTo greatestPower)).lower (places - greatestPower)
termination_by places
decreasing_by
  simp only [greatestPower] at *
  omega

/-- Store a decimal. -/
def ofDecimal (decimal : Decimal) : BinaryNumber :=
  let factor := nearest decimal.factor 1
  if decimal.factor = 0 then
    factor
  else if decimal.power < 0 then
    factor.lower decimal.power.natAbs
  else
    factor.times (tenTo decimal.power.natAbs)

end BinaryNumber
end ObfuscationMap
