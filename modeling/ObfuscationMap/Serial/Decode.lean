import ObfuscationMap.TextFormat.Kind
import ObfuscationMap.Member.Field
import ObfuscationMap.Member.Method
import ObfuscationMap.Serial.Value

/-!
# Stored forms

A type is stored as its source name, or as its descriptor in binary documents; a
field as its joined name; a method as its joined name and its signature; and a
format as its identifier.
-/

namespace ObfuscationMap
namespace SerialValue

/-- Read a value that has to be a string. -/
def toText (expected : String) : SerialValue -> Except SerialError Text
  | .string text => .ok text
  | other => .error (.invalidType other.shape expected.toList)

/-- The value of a member of an object. -/
def member? (name : Text) (members : List (Text × SerialValue)) : Option SerialValue :=
  (members.find? fun member => member.1 == name).map Prod.snd

/-- Read a type from its source name. -/
def toType (value : SerialValue) : Except SerialError JavaType := do
  let text <- value.toText "a java type name"
  (JavaType.ofSourceName text).mapError .refused

/-- Read a type from its descriptor. -/
def toTypeByDescriptor (value : SerialValue) : Except SerialError JavaType := do
  let text <- value.toText "a java type descriptor"
  (JavaType.ofDescriptor text).mapError .refused

/-- Read a field from its joined name. -/
def toField (value : SerialValue) : Except SerialError Field := do
  let text <- value.toText "a string"
  (Field.ofInternalName text).mapError .refused

/-- What is expected where a method is stored. -/
def methodShape : String := "struct RawMethodData"

/-- The joined name and the signature in an object. Both are read before either is
missed. -/
def methodPartsOfObject (members : List (Text × SerialValue)) :
    Except SerialError (Text × Text) := do
  let name? <- (member? "name".toList members).mapM (toText "a string")
  let signature? <- (member? "signature".toList members).mapM (toText "a string")
  match name?, signature? with
  | some name, some signature => return (name, signature)
  | none, _ => throw (.missingMember "name".toList)
  | some _, none => throw (.missingMember "signature".toList)

/-- The joined name and the signature in a list of two strings. -/
def methodPartsOfList (items : List SerialValue) : Except SerialError (Text × Text) := do
  let parts <- (items.take 2).mapM (toText "a string")
  match parts with
  | [name, signature] =>
      if items.length = 2 then
        return (name, signature)
      else
        throw (.invalidLength items.length "fewer elements in array".toList)
  | _ =>
      throw (.invalidLength items.length (methodShape ++ " with 2 elements").toList)

/-- Read a method from its joined name and its signature. -/
def toMethod (value : SerialValue) : Except SerialError Method := do
  let (name, signature) <-
    match value with
    | .object members => methodPartsOfObject members
    | .list items => methodPartsOfList items
    | other => throw (.invalidType other.shape methodShape.toList)
  (Method.ofParts name signature).mapError .refused

/-- Read a format from a word. -/
def formatOfWord (word : Text) : Except SerialError TextFormat :=
  match TextFormat.ofId? word with
  | some format => .ok format
  | none => .error (.unknownVariant word "`srg` or `csrg`".toList)

/-- Read a format from its identifier, or from an object whose only member has
that name and no value. -/
def toFormat : SerialValue -> Except SerialError TextFormat
  | .string word => formatOfWord word
  | .object [(word, content)] => do
      let format <- formatOfWord word
      match content with
      | .null => return format
      | other => throw (.invalidType other.shape "unit".toList)
  | .object members =>
      .error (.invalidValue (shape (.object members)) "map with a single key".toList)
  | other => .error (.invalidType other.shape "string or map".toList)

/-- Store a type. -/
def ofType (type : JavaType) : SerialValue :=
  .string type.sourceName

/-- Store a type in a binary document. -/
def ofTypeByDescriptor (type : JavaType) : SerialValue :=
  .string type.descriptor

/-- Store a field. -/
def ofField (field : Field) : SerialValue :=
  .string field.internalName

/-- Store a method. -/
def ofMethod (method : Method) : SerialValue :=
  .object
    [("name".toList, .string method.internalName),
      ("signature".toList, .string method.signature.descriptor)]

/-- Store a format. -/
def ofFormat (format : TextFormat) : SerialValue :=
  .string format.id

end SerialValue
end ObfuscationMap
