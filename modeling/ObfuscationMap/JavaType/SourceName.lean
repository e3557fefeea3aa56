import ObfuscationMap.JavaType.Basic

/-!
# Reading source names and internal names

A source name is the name of a class or a primitive type, followed by one pair
of brackets for each dimension. Primitive names are read in any case, so the
class `Int` has no source name of its own. An internal name is read as a source
name after its slashes have become dots.
-/

namespace ObfuscationMap
namespace JavaType

/-- Split the pairs of brackets off the front of a reversed name, and count
them. -/
def splitReversed : Text -> Text × Nat
  | ']' :: '[' :: rest =>
      let (stem, depth) := splitReversed rest
      (stem, depth + 1)
  | rest => (rest, 0)

/-- The name before the trailing pairs of brackets, and the number of pairs. -/
def splitBrackets (name : Text) : Text × Nat :=
  let (stem, depth) := splitReversed name.reverse
  (stem.reverse, depth)

/-- Read the name of a class or a primitive type. -/
def ofStem (stem : Text) : Except MappingError JavaType :=
  match Primitive.ofName? stem with
  | some kind => .ok (.primitive kind)
  | none => (ClassName.ofText stem).map .reference

/-- Read a source name, such as `java.lang.String[]`. A text of nothing but pairs
of brackets is refused as a whole. -/
def ofSourceName (name : Text) : Except MappingError JavaType :=
  let (stem, depth) := splitBrackets name
  if stem.isEmpty then
    .error (.invalidName .type name)
  else
    (ofStem stem).map fun type => type.arrayOf depth

/-- Read an internal name, such as `java/lang/String`. -/
def ofInternalName (name : Text) : Except MappingError JavaType :=
  ofSourceName name.dotted

end JavaType
end ObfuscationMap
