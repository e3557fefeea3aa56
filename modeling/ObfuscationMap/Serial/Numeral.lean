import ObfuscationMap.Decimal.Basic

/-!
# Numerals

A numeral has digits, perhaps a point with digits after it, and perhaps an
exponent. Only as many digits are kept as make a number of 64 bits; a digit before
the point that is left out still counts in the power of ten.
-/

namespace ObfuscationMap
namespace Numeral

/-- The value of a digit. -/
def digitValue (digit : Char) : Nat :=
  digit.toNat - '0'.toNat

/-- The digits of a number, read. -/
def readDigits (digits : Text) : Nat :=
  digits.foldl (fun value digit => 10 * value + digitValue digit) 0

/-- Read an exponent, with or without a sign. -/
def readExponent : Text -> Int
  | '-' :: digits => -(readDigits digits : Int)
  | '+' :: digits => readDigits digits
  | digits => readDigits digits

/-- The number with one more digit, if 64 bits hold it. -/
def append? (kept : Nat) (digit : Char) : Option Nat :=
  if 10 * kept + digitValue digit < Nat.pow 2 64 then
    some (10 * kept + digitValue digit)
  else
    none

/-- Keep digits before the point. From the first that does not fit, each counts in
the power of ten. -/
def keepWhole (kept : Nat) : Text -> Decimal
  | [] => { factor := kept, power := 0 }
  | digit :: rest =>
      match append? kept digit with
      | some more => keepWhole more rest
      | none => { factor := kept, power := rest.length + 1 }

/-- Keep digits after the point, up to the first that does not fit. -/
def keepFraction (decimal : Decimal) : Text -> Decimal
  | [] => decimal
  | digit :: rest =>
      match append? decimal.factor digit with
      | some more => keepFraction { factor := more, power := decimal.power - 1 } rest
      | none => decimal

/-- The decimal of the digits before and after the point and of the exponent. -/
def toDecimal (whole fraction : Text) (exponent : Int) : Decimal :=
  let kept := keepFraction (keepWhole 0 whole) fraction
  { kept with power := kept.power + exponent }

end Numeral
end ObfuscationMap
