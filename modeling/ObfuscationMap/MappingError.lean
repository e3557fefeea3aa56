import ObfuscationMap.Text.Quoted

/-!
# What can be wrong with a name, a line or a mapping

Every refusal of the library is a value that carries its cause. The wording is
kept apart, in the `message` functions.
-/

namespace ObfuscationMap

/-- What a refused name was meant to be. -/
inductive NameKind
  | type
  | identifier
  | package
  | member
  deriving DecidableEq

/-- What is wrong with a type descriptor. -/
inductive DescriptorFlaw
  | empty
  | arrayOfNothing
  | unterminatedObject
  | trailingCharacters
  | unrecognizedPrimitive
  deriving DecidableEq

/-- What is wrong with the frame of a method signature. -/
inductive SignatureFlaw
  | missingOpening
  | unterminatedArguments
  | unfinishedObject
  deriving DecidableEq

/-- What is wrong with the number of words on a line. -/
inductive LineFlaw
  | wrongCount
  | notTwoToFour
  deriving DecidableEq

/-- The operations that change a mapping by one entry. -/
inductive SetOperation
  | setClass
  | setField
  | setMethod
  deriving DecidableEq

/-- The reason for which a name, a descriptor, a line, a change or a chain is
refused. -/
inductive MappingError
  /-- A text that is not a name of the kind that is needed. -/
  | invalidName (kind : NameKind) (name : Text)
  /-- A text that is not the descriptor of a type. -/
  | malformedDescriptor (descriptor : Text) (flaw : DescriptorFlaw)
  /-- A text that is not the descriptor of a method. -/
  | malformedSignature (signature : Text) (flaw : SignatureFlaw)
  /-- A line whose first word names no kind of record. -/
  | unrecognizedRecord (kind : Text)
  /-- A line with the wrong number of words. -/
  | invalidLine (line : Text) (flaw : LineFlaw)
  /-- A change of a mapping that cannot be changed. -/
  | unsupported (operation : SetOperation)
  /-- A layer of a strict chain that renames something the chain does not know. -/
  | unknownName (layer : Nat) (name : Text)
  deriving DecidableEq

/-- The word for a kind of name. -/
def NameKind.word : NameKind -> String
  | .type => "type"
  | .identifier => "identifier"
  | .package => "package"
  | .member => "member"

/-- The wording of a flaw in a type descriptor. -/
def DescriptorFlaw.message : DescriptorFlaw -> String
  | .empty => "empty descriptor"
  | .arrayOfNothing => "array of nothing"
  | .unterminatedObject => "unterminated object descriptor"
  | .trailingCharacters => "trailing characters"
  | .unrecognizedPrimitive => "unrecognized primitive code"

/-- The wording of a flaw in a method signature. -/
def SignatureFlaw.message : SignatureFlaw -> String
  | .missingOpening => "missing '('"
  | .unterminatedArguments => "unterminated argument list"
  | .unfinishedObject => "reached end of arguments without object completion"

/-- The wording of a wrong number of words. -/
def LineFlaw.message : LineFlaw -> String
  | .wrongCount => "wrong number of arguments"
  | .notTwoToFour => "expected between 2 and 4 arguments"

/-- The name under which a change is refused. -/
def SetOperation.name : SetOperation -> String
  | .setClass => "set_class"
  | .setField => "set_field"
  | .setMethod => "set_method"

/-- The message of a refusal. -/
def MappingError.message : MappingError -> Text
  | .invalidName kind name =>
      "Invalid ".toList ++ kind.word.toList ++ " name ".toList ++ Text.quoted name
  | .malformedDescriptor descriptor flaw =>
      "Malformed descriptor ".toList ++ Text.quoted descriptor ++ ": ".toList ++
        flaw.message.toList
  | .malformedSignature signature flaw =>
      "Malformed signature ".toList ++ Text.quoted signature ++ ": ".toList ++
        flaw.message.toList
  | .unrecognizedRecord kind =>
      "Unrecognized record kind ".toList ++ Text.quoted kind
  | .invalidLine line flaw =>
      "Invalid line ".toList ++ Text.quoted line ++ ": ".toList ++ flaw.message.toList
  | .unsupported operation =>
      "Unsupported operation on immutable mappings: ".toList ++ operation.name.toList
  | .unknownName layer name =>
      "Chained layer ".toList ++ Nat.toDigits 10 layer ++
        " introduces unknown name ".toList ++ name

end ObfuscationMap
