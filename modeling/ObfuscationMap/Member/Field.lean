import ObfuscationMap.JavaType.SourceName
import ObfuscationMap.Member.Name

/-!
# Fields

A field is identified by the type that declares it and its name.
-/

namespace ObfuscationMap

/-- A field: the type that declares it and its name. -/
structure Field where
  owner : JavaType
  name : MemberName
  deriving DecidableEq

namespace Field

/-- The joined name of a field, such as `net/example/Entity/dead`. -/
def internalName (field : Field) : Text :=
  field.owner.internalName ++ '/' :: field.name.text

/-- Read a joined name: the declaring type first, then the name. -/
def ofInternalName (joined : Text) : Except MappingError Field := do
  let (ownerText, nameText) <- MemberName.splitJoined joined
  let owner <- JavaType.ofInternalName ownerText
  let name <- MemberName.ofText nameText
  return { owner, name }

/-- Change the declaring type of a field. -/
def mapTypes (rename : JavaType -> JavaType) (field : Field) : Field :=
  { field with owner := rename field.owner }

/-- Whether two fields differ at most in their names. -/
def hasSameTypes (left right : Field) : Bool :=
  left.owner == right.owner

end Field
end ObfuscationMap
