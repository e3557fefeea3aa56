import ObfuscationMap.ClassName

/-!
# Types

A type is a class, a primitive type, or an array of a type. This module holds
the ways of writing a type and of changing the class in it; the readers are in
the modules `SourceName` and `Descriptor`.
-/

namespace ObfuscationMap

/-- A type of a member or of a parameter. -/
inductive JavaType
  | reference (name : ClassName)
  | primitive (kind : Primitive)
  | array (element : JavaType)
  deriving DecidableEq

namespace JavaType

/-- The name of a type in source code, such as `java.lang.String[]`. -/
def sourceName : JavaType -> Text
  | .reference name => name.text
  | .primitive kind => kind.name
  | .array element => element.sourceName ++ ['[', ']']

/-- The internal name of a type, such as `java/lang/String[]`. -/
def internalName : JavaType -> Text
  | .reference name => name.internalName
  | .primitive kind => kind.name
  | .array element => element.internalName ++ ['[', ']']

/-- The descriptor of a type, such as `[Ljava/lang/String;`. -/
def descriptor : JavaType -> Text
  | .reference name => 'L' :: name.internalName ++ [';']
  | .primitive kind => [kind.code]
  | .array element => '[' :: element.descriptor

/-- The array of a type with a given number of dimensions. -/
def arrayOf (element : JavaType) : Nat -> JavaType
  | 0 => element
  | depth + 1 => .array (element.arrayOf depth)

/-- The number of dimensions of a type. -/
def depth : JavaType -> Nat
  | .array element => element.depth + 1
  | _ => 0

/-- The type of the elements of the innermost array, or the type itself. -/
def innermost : JavaType -> JavaType
  | .array element => element.innermost
  | other => other

/-- The class of a type that is a class. -/
def className? : JavaType -> Option ClassName
  | .reference name => some name
  | _ => none

/-- The class in a type, under all its dimensions. -/
def innermostClass? (type : JavaType) : Option ClassName :=
  type.innermost.className?

/-- The direct element type of an array. -/
def element? : JavaType -> Option JavaType
  | .array element => some element
  | _ => none

/-- Put another type in the place of the class in a type. A type without a class
stays as it is. -/
def mapClass (rename : ClassName -> JavaType) : JavaType -> JavaType
  | .reference name => rename name
  | .primitive kind => .primitive kind
  | .array element => .array (element.mapClass rename)

/-- The class of a type that has to be a class; otherwise its name is refused. -/
def toClassName (type : JavaType) : Except MappingError ClassName :=
  match type with
  | .reference name => .ok name
  | other => .error (.invalidName .type other.sourceName)

@[simp] theorem innermost_arrayOf (element : JavaType) (depth : Nat) :
    (element.arrayOf depth).innermost = element.innermost := by
  induction depth with
  | zero => rfl
  | succ depth step => exact step

/-- A type is the array, with its dimensions, of its innermost type. -/
theorem arrayOf_innermost (type : JavaType) :
    type.innermost.arrayOf type.depth = type := by
  induction type with
  | reference name => rfl
  | primitive kind => rfl
  | array element step => exact congrArg array step

@[simp] theorem mapClass_reference (type : JavaType) :
    type.mapClass .reference = type := by
  induction type with
  | reference name => rfl
  | primitive kind => rfl
  | array element step => exact congrArg array step

end JavaType
end ObfuscationMap
