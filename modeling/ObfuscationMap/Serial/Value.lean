import ObfuscationMap.Decimal.Shortest
import ObfuscationMap.MappingError
import ObfuscationMap.Serial.Numeral

/-!
# Serialized values

Types and members are stored in documents as trees of values. A value that has
the wrong shape is refused with a word for its shape and what was expected.
-/

namespace ObfuscationMap

/-- A value of a document. -/
inductive SerialValue
  | null
  | boolean (value : Bool)
  | integer (value : Int)
  /-- A number that is no integer of 64 bits, by its sign and its magnitude. -/
  | real (negative : Bool) (magnitude : BinaryNumber)
  | string (text : Text)
  | list (items : List SerialValue)
  | object (members : List (Text × SerialValue))
  deriving Inhabited

namespace SerialValue

/-- Read a numeral. A numeral without point and exponent is an integer if 64 bits
hold it, and a negative zero is none. -/
def ofNumeral (numeral : Text) : SerialValue :=
  let negative := numeral.head? == some '-'
  let unsigned := if negative then numeral.drop 1 else numeral
  let whole := unsigned.takeWhile Char.isDigit
  let afterWhole := unsigned.drop whole.length
  let value := Numeral.readDigits whole
  if afterWhole.isEmpty && !negative && value < Nat.pow 2 64 then
    .integer value
  else if afterWhole.isEmpty && negative && 0 < value && value ≤ Nat.pow 2 63 then
    .integer (-value)
  else
    let fraction :=
      if afterWhole.head? == some '.' then (afterWhole.drop 1).takeWhile Char.isDigit
      else []
    let exponent := (afterWhole.dropWhile fun c => c != 'e' && c != 'E').drop 1
    .real negative
      (BinaryNumber.ofDecimal
        (Numeral.toDecimal whole fraction (Numeral.readExponent exponent)))

/-- Numbers are written positionally from a hundred-thousandth up to sixteen digits
before the point. -/
def numberLayout : DecimalLayout where
  least := -5
  greatest := 15

/-- The word for the shape of a value. -/
def shape : SerialValue -> Text
  | .null => "null".toList
  | .boolean true => "boolean `true`".toList
  | .boolean false => "boolean `false`".toList
  | .integer value => "integer `".toList ++ (toString value).toList ++ "`".toList
  | .real negative magnitude =>
      "floating point `".toList ++ (if negative then ['-'] else []) ++
        magnitude.shortest.write numberLayout ++ "`".toList
  | .string text => "string ".toList ++ Text.quoted text
  | .list _ => "sequence".toList
  | .object _ => "map".toList

end SerialValue

/-- The reason for which a value of a document is refused. -/
inductive SerialError
  /-- A value of another shape than the expected one. -/
  | invalidType (shape expected : Text)
  /-- A value of the right shape that is not the expected one. -/
  | invalidValue (shape expected : Text)
  /-- A member that an object lacks. -/
  | missingMember (name : Text)
  /-- A list with another length than the expected one. -/
  | invalidLength (length : Nat) (expected : Text)
  /-- A word that is none of the expected ones. -/
  | unknownVariant (word expected : Text)
  /-- A text that was read and refused. -/
  | refused (error : MappingError)

/-- The wording of the reason for which a value is refused. -/
def SerialError.message : SerialError -> Text
  | .invalidType shape expected =>
      "invalid type: ".toList ++ shape ++ ", expected ".toList ++ expected
  | .invalidValue shape expected =>
      "invalid value: ".toList ++ shape ++ ", expected ".toList ++ expected
  | .missingMember name => "missing field `".toList ++ name ++ "`".toList
  | .invalidLength length expected =>
      "invalid length ".toList ++ Nat.toDigits 10 length ++ ", expected ".toList ++
        expected
  | .unknownVariant word expected =>
      "unknown variant `".toList ++ word ++ "`, expected ".toList ++ expected
  | .refused error => error.message

end ObfuscationMap
