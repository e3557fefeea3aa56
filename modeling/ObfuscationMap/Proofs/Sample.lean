import ObfuscationMap.Member.Field
import ObfuscationMap.Member.Method

/-!
# Small classes and members

Concrete tables are written with classes, fields and methods whose names are single
letters, as obfuscated names are. Each name is evaluated where it is written, so that a
text that is no name is refused.
-/

namespace ObfuscationMap

/-- The class with a given name. -/
def JavaType.named
    (text : Text)
    (valid : ClassName.isClassName text = true := by exact Eq.refl true) : JavaType :=
  .reference ⟨text, valid⟩

/-- The class with a name of one letter. -/
def JavaType.ofLetter
    (letter : Char)
    (valid : ClassName.isClassName [letter] = true := by exact Eq.refl true) : JavaType :=
  .named [letter] valid

/-- The member name of one letter. -/
def MemberName.ofLetter
    (letter : Char)
    (valid : Name.isIdentifier [letter] = true := by exact Eq.refl true) : MemberName :=
  ⟨[letter], valid⟩

/-- The method with one parameter and without a result. -/
def Method.onto (owner : JavaType) (name : MemberName) (parameter : JavaType) : Method where
  owner := owner
  name := name
  signature := { parameters := [parameter], result := .primitive .void }

end ObfuscationMap
