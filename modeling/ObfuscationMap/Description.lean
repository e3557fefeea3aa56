import ObfuscationMap.Layer

/-!
# Structural descriptions

A description shows how a value is built: the constructor of a type, the parts of
a member, the entries of a table, and which rules a renamer has.
-/

namespace ObfuscationMap

namespace Description

/-- Items with a comma and a space between them. -/
def commaSeparated (items : List Text) : Text :=
  [',', ' '].intercalate items

/-- Named parts after a title, in braces. -/
def structured (title : String) (parts : List (String × Text)) : Text :=
  title.toList ++ " \x7b ".toList ++
    commaSeparated (parts.map fun part => part.1.toList ++ ": ".toList ++ part.2) ++
    " \x7d".toList

/-- One argument after a title, in parentheses. -/
def applied (title : String) (argument : Text) : Text :=
  title.toList ++ '(' :: argument ++ [')']

/-- Items in brackets. -/
def listed (items : List Text) : Text :=
  '[' :: commaSeparated items ++ [']']

/-- The entries of a map in braces. -/
def mapped {κ ν : Type}
    (key : κ -> Text)
    (value : ν -> Text)
    (map : OrderedMap κ ν) : Text :=
  "\x7b".toList ++
    commaSeparated (map.entries.map fun entry =>
      key entry.1 ++ ": ".toList ++ value entry.2) ++
    "\x7d".toList

/-- The word for a truth value. -/
def ofBool (value : Bool) : Text :=
  (toString value).toList

end Description

open Description

/-- The constructor of a primitive type. -/
def Primitive.description : Primitive -> Text
  | .byte => "Byte".toList
  | .short => "Short".toList
  | .int => "Int".toList
  | .long => "Long".toList
  | .float => "Float".toList
  | .double => "Double".toList
  | .char => "Char".toList
  | .boolean => "Boolean".toList
  | .void => "Void".toList

/-- How a type is built. -/
def JavaType.description : JavaType -> Text
  | .reference name =>
      applied "Reference" (applied "ReferenceType" (Text.quoted name.text))
  | .primitive kind => applied "Primitive" kind.description
  | .array element => applied "Array" element.description

/-- How a signature is built. -/
def Signature.description (signature : Signature) : Text :=
  structured "MethodSignature"
    [("parameter_types", listed (signature.parameters.map JavaType.description)),
      ("return_type", signature.result.description)]

/-- How a field is built. -/
def Field.description (field : Field) : Text :=
  structured "FieldData"
    [("declaring_type", field.owner.description),
      ("name", Text.quoted field.name.text)]

/-- How a method is built. -/
def Method.description (method : Method) : Text :=
  structured "MethodData"
    [("declaring_type", method.owner.description),
      ("name", Text.quoted method.name.text),
      ("signature", method.signature.description)]

/-- The entries of a table. -/
def MappingTable.description (table : MappingTable) : Text :=
  structured "FrozenMappings"
    [("classes", mapped JavaType.description JavaType.description table.classes),
      ("fields", mapped Field.description Field.description table.fields),
      ("methods", mapped Method.description Method.description table.methods)]

/-- Which rules a renamer has. -/
def Renamer.description (renamer : Renamer) : Text :=
  structured "RenamingMappings"
    [("class_renamer", ofBool renamer.classRule.isSome),
      ("method_renamer", ofBool renamer.methodRule.isSome),
      ("field_renamer", ofBool renamer.fieldRule.isSome)]

/-- The table of package moves. -/
def PackageMoves.description (moves : PackageMoves) : Text :=
  structured "PackageMappings"
    [("packages", mapped Text.quoted Text.quoted moves.table)]

/-- The description of a layer. -/
def Layer.description : Layer -> Text
  | .stored table => table.description
  | .computed renamer => renamer.description
  | .moved moves => moves.description

end ObfuscationMap
