import ObfuscationMap.JavaType.SourceName
import ObfuscationMap.Member.Name
import ObfuscationMap.Signature

/-!
# Methods

A method is identified by the type that declares it, its name and its signature,
so overloads are different methods.
-/

namespace ObfuscationMap

/-- A method: the type that declares it, its name and its signature. -/
structure Method where
  owner : JavaType
  name : MemberName
  signature : Signature
  deriving DecidableEq

namespace Method

/-- The joined name of a method, such as `net/example/Cow/love`. -/
def internalName (method : Method) : Text :=
  method.owner.internalName ++ '/' :: method.name.text

/-- The joined name and the signature of a method, with a space between them. -/
def internalForm (method : Method) : Text :=
  method.internalName ++ ' ' :: method.signature.descriptor

/-- The form in which messages name a method, such as `net.example.Cow.love()V`. -/
def display (method : Method) : Text :=
  method.owner.sourceName ++ '.' :: method.name.text ++ method.signature.descriptor

/-- Read a joined name for a method with a known signature. -/
def ofInternalName
    (joined : Text)
    (signature : Signature) : Except MappingError Method := do
  let (ownerText, nameText) <- MemberName.splitJoined joined
  let owner <- JavaType.ofInternalName ownerText
  let name <- MemberName.ofText nameText
  return { owner, name, signature }

/-- Read a method from its joined name and its signature. The signature is read
first. -/
def ofParts (joined signature : Text) : Except MappingError Method := do
  let signature <- Signature.ofDescriptor signature
  ofInternalName joined signature

/-- Change the declaring type and every type of the signature. -/
def mapTypes (rename : JavaType -> JavaType) (method : Method) : Method :=
  { method with
    owner := rename method.owner
    signature := method.signature.mapTypes rename }

/-- Whether two methods differ at most in their names. -/
def hasSameTypes (left right : Method) : Bool :=
  left.owner == right.owner && left.signature == right.signature

end Method
end ObfuscationMap
