import ObfuscationMap.Text.Basic

/-!
# Decimals as text

A decimal is a natural number times a power of ten. It is written positionally,
with at least one digit after the point, if its first digit stands near enough to
the point; otherwise its first digit comes before the point and an exponent
follows. A layout says what is near enough.
-/

namespace ObfuscationMap

/-- The number `factor * 10 ^ power`. -/
structure Decimal where
  factor : Nat
  power : Int
  deriving DecidableEq

/-- The powers of ten from the least to the greatest at which the first digit of a
positionally written decimal stands. -/
structure DecimalLayout where
  least : Int
  greatest : Int

namespace Decimal

/-- The decimal with the zeros at the end of a factor taken into the power of
ten. -/
def withoutZeros (factor : Nat) (power : Int) : Decimal :=
  if zeros : factor ≠ 0 ∧ factor % 10 = 0 then
    withoutZeros (factor / 10) (power + 1)
  else
    { factor, power }
termination_by factor
decreasing_by exact Nat.div_lt_self (Nat.pos_of_ne_zero zeros.1) (by decide)

/-- The digits of the factor. -/
def digits (decimal : Decimal) : Text :=
  Nat.toDigits 10 decimal.factor

/-- The power of ten at which the first digit stands. -/
def leadingPower (decimal : Decimal) : Int :=
  decimal.power + decimal.digits.length - 1

/-- Write a decimal with all its places and at least one digit after the point. -/
def positional (decimal : Decimal) : Text :=
  if 0 ≤ decimal.power then
    decimal.digits ++ List.replicate decimal.power.natAbs '0' ++ ['.', '0']
  else
    let places := decimal.power.natAbs
    let padded := List.replicate (places + 1 - decimal.digits.length) '0' ++ decimal.digits
    padded.take (padded.length - places) ++ '.' :: padded.drop (padded.length - places)

/-- Write digits with a point after the first, unless it is the only one. -/
def pointed : Text -> Text
  | first :: second :: rest => first :: '.' :: second :: rest
  | short => short

/-- Write a decimal with its first digit before the point and a signed exponent. -/
def scientific (decimal : Decimal) : Text :=
  pointed decimal.digits ++ 'e' :: (if decimal.leadingPower < 0 then '-' else '+') ::
    Nat.toDigits 10 decimal.leadingPower.natAbs

/-- Write a decimal in a layout. -/
def write (layout : DecimalLayout) (decimal : Decimal) : Text :=
  if layout.least ≤ decimal.leadingPower ∧ decimal.leadingPower ≤ layout.greatest then
    decimal.positional
  else
    decimal.scientific

end Decimal
end ObfuscationMap
