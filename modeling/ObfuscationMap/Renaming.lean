import ObfuscationMap.Member.Field
import ObfuscationMap.Member.Method

/-!
# Renamings

A renaming answers for some classes, fields and methods with their new form, and
has no answer for the others. Where it has none, a type keeps its dimensions and
has the class in it renamed, and a member keeps its name and follows the classes
of its types.
-/

namespace ObfuscationMap

/-- Answers for the classes, fields and methods that are renamed. -/
structure Renaming where
  /-- The new form of a type that has an answer of its own. -/
  class? : JavaType -> Option JavaType
  /-- The new form of a field that has an answer of its own. -/
  field? : Field -> Option Field
  /-- The new form of a method that has an answer of its own. -/
  method? : Method -> Option Method

namespace Renaming

/-- The renaming that has answers for classes alone. -/
def ofClasses (class? : JavaType -> Option JavaType) : Renaming where
  class? := class?
  field? := fun _ => none
  method? := fun _ => none

/-- Rename the class in a type. -/
def renameType (answers : Renaming) (type : JavaType) : JavaType :=
  type.mapClass fun name =>
    (answers.class? (.reference name)).getD (.reference name)

/-- Rename a field, by its own answer or else by its declaring type. -/
def renameField (answers : Renaming) (field : Field) : Field :=
  (answers.field? field).getD (field.mapTypes answers.renameType)

/-- Rename a method, by its own answer or else by its types. -/
def renameMethod (answers : Renaming) (method : Method) : Method :=
  (answers.method? method).getD (method.mapTypes answers.renameType)

/-- Whether there is an answer for the innermost type of a type. -/
def hasClass (answers : Renaming) (type : JavaType) : Bool :=
  (answers.class? type.innermost).isSome

/-- Whether there is an answer for a field. -/
def hasField (answers : Renaming) (field : Field) : Bool :=
  (answers.field? field).isSome

/-- Whether there is an answer for a method. -/
def hasMethod (answers : Renaming) (method : Method) : Bool :=
  (answers.method? method).isSome

/-- A renaming without answers leaves every type as it is. -/
theorem renameType_of_class?_eq_none
    (answers : Renaming)
    (silent : ∀ type, answers.class? type = none)
    (type : JavaType) :
    answers.renameType type = type := by
  simp [renameType, silent]

/-- Answers for classes alone rename a field by its declaring type. -/
@[simp] theorem renameField_ofClasses
    (class? : JavaType -> Option JavaType)
    (field : Field) :
    (ofClasses class?).renameField field =
      field.mapTypes (ofClasses class?).renameType := rfl

/-- Answers for classes alone rename a method by its types. -/
@[simp] theorem renameMethod_ofClasses
    (class? : JavaType -> Option JavaType)
    (method : Method) :
    (ofClasses class?).renameMethod method =
      method.mapTypes (ofClasses class?).renameType := rfl

end Renaming
end ObfuscationMap
