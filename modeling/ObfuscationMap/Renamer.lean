import ObfuscationMap.Notice
import ObfuscationMap.Renaming

/-!
# Renamers

A renamer computes new names by rules. The rule for classes gives a type for each
class; a class that it leaves alone has no answer. The rules for members give a
new name, and the types of the member follow the rule for classes. A kind without
a rule keeps its names.

A naming rule may answer with a text that is no member name. The lookup then
keeps the old name, and its report holds the fault.
-/

namespace ObfuscationMap

/-- Rules that compute new names. -/
structure Renamer where
  /-- The new form of each class. -/
  classRule : Option (ClassName -> JavaType) := none
  /-- The new name of each field. -/
  fieldRule : Option (Field -> Text) := none
  /-- The new name of each method. -/
  methodRule : Option (Method -> Text) := none

namespace Renamer

/-- The answer of the class rule, if it changes the type. Arrays and primitive
types have no answer of their own. -/
def class? (renamer : Renamer) : JavaType -> Option JavaType
  | .reference name =>
      renamer.classRule.bind fun rule =>
        if rule name = .reference name then none else some (rule name)
  | _ => none

/-- The renaming of types by the class rule. -/
def classes (renamer : Renamer) : Renaming :=
  .ofClasses renamer.class?

/-- The member name that a naming rule answers with, or the old name if the
answer is no name. -/
def nameOr (old : MemberName) (answer : Text) : MemberName :=
  (MemberName.ofText answer).toOption.getD old

/-- The new form of a field by the rules, if there is a rule for fields. -/
def field? (renamer : Renamer) (field : Field) : Option Field :=
  renamer.fieldRule.map fun rule =>
    { field.mapTypes renamer.classes.renameType with
      name := nameOr field.name (rule field) }

/-- The new form of a method by the rules, if there is a rule for methods. -/
def method? (renamer : Renamer) (method : Method) : Option Method :=
  renamer.methodRule.map fun rule =>
    { method.mapTypes renamer.classes.renameType with
      name := nameOr method.name (rule method) }

/-- The renaming that answers by the rules. -/
def toRenaming (renamer : Renamer) : Renaming where
  class? := renamer.class?
  field? := renamer.field?
  method? := renamer.method?

/-- The report of taking an answer as the name of a member. -/
def reportName (subject answer : Text) : Report :=
  if Name.isIdentifier answer then .empty else .ofFault { subject, answer }

/-- The report of asking the rule for fields. -/
def reportField (renamer : Renamer) (field : Field) : Report :=
  match renamer.fieldRule with
  | some rule => reportName field.internalName (rule field)
  | none => .empty

/-- The report of asking the rule for methods. -/
def reportMethod (renamer : Renamer) (method : Method) : Report :=
  match renamer.methodRule with
  | some rule => reportName method.display (rule method)
  | none => .empty

@[simp] theorem nameOr_text (old name : MemberName) :
    nameOr old name.text = name := by
  simp [nameOr, Except.toOption]

end Renamer
end ObfuscationMap
