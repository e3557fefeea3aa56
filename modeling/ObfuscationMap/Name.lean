import ObfuscationMap.Text.Alphanumeric
import ObfuscationMap.Text.Basic

/-!
# The grammar of names

Names are built from words. A member name may also hold the characters of
synthetic and special members, a type name joins words by dots and dollar signs,
and a package joins words by dots.
-/

namespace ObfuscationMap
namespace Name

/-- The characters of words. -/
def isWordChar (c : Char) : Bool :=
  Text.isAlphanumeric c || c == '_'

/-- A word is a nonempty run of letters, numbers and underscores. -/
def isWord (text : Text) : Bool :=
  !text.isEmpty && text.all isWordChar

/-- The characters of member names: those of words, the dollar sign, and the
angle brackets of constructors and static initializers. -/
def isIdentifierChar (c : Char) : Bool :=
  isWordChar c || c == '$' || c == '<' || c == '>'

/-- A member name is a nonempty run of identifier characters. -/
def isIdentifier (text : Text) : Bool :=
  !text.isEmpty && text.all isIdentifierChar

/-- A dotted type name is a sequence of words between dots and dollar signs. -/
def isTypeName (text : Text) : Bool :=
  (text.splitOnP fun c => c == '.' || c == '$').all isWord

/-- A dotted package is empty, for the default package, or a sequence of words
between dots. -/
def isPackage (text : Text) : Bool :=
  text.isEmpty || (text.splitOn '.').all isWord

end Name
end ObfuscationMap
