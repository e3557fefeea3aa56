import ObfuscationMap.JavaType.Basic

/-!
# Reading type descriptors

A descriptor is one opening bracket for each dimension, followed by the code of
a primitive type or by an internal class name between `L` and `;`. A refusal
quotes what is left of the descriptor after the brackets that were read.
-/

namespace ObfuscationMap
namespace JavaType

/-- Read what stands after the `L` of an object descriptor. -/
def ofObjectBody (body : Text) : Except MappingError JavaType :=
  if body.getLast? = some ';' then
    (ClassName.ofText (Text.dotted body.dropLast)).map .reference
  else
    .error (.malformedDescriptor ('L' :: body) .unterminatedObject)

/-- Read a descriptor that starts with the code of a primitive type. -/
def ofPrimitiveCode (code : Char) (rest : Text) : Except MappingError JavaType :=
  match Primitive.ofCode? code with
  | none => .error (.malformedDescriptor (code :: rest) .unrecognizedPrimitive)
  | some kind =>
      if rest.isEmpty then
        .ok (.primitive kind)
      else
        .error (.malformedDescriptor (code :: rest) .trailingCharacters)

/-- Read a descriptor, such as `[Ljava/lang/String;`. -/
def ofDescriptor : Text -> Except MappingError JavaType
  | [] => .error (.malformedDescriptor [] .empty)
  | c :: rest =>
      if c = '[' then
        if rest.all (· == '[') then
          .error (.malformedDescriptor (c :: rest) .arrayOfNothing)
        else
          (ofDescriptor rest).map .array
      else if c = 'L' then
        ofObjectBody rest
      else
        ofPrimitiveCode c rest

end JavaType
end ObfuscationMap
