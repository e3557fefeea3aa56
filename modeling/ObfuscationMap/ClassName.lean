import ObfuscationMap.MappingError
import ObfuscationMap.Name
import ObfuscationMap.Primitive

/-!
# Class names

A class, interface or enum is identified by its dotted name. The lower-case
names of the primitive types are reserved, so no class has the name of a
primitive type; other spellings of them, such as `Int`, are class names.
-/

namespace ObfuscationMap

namespace ClassName

/-- Whether a text is the lower-case name of a primitive type. -/
def isReserved (text : Text) : Bool :=
  Primitive.all.any fun primitive => primitive.name == text

/-- Whether a text may name a class. -/
def isClassName (text : Text) : Bool :=
  Name.isTypeName text && !isReserved text

end ClassName

/-- The dotted name of a class. -/
structure ClassName where
  /-- The name itself. -/
  text : Text
  /-- The name follows the grammar and is not reserved. -/
  valid : ClassName.isClassName text = true
  deriving DecidableEq

namespace ClassName

/-- Read a dotted name. -/
def ofText (text : Text) : Except MappingError ClassName :=
  if valid : isClassName text = true then
    .ok ⟨text, valid⟩
  else
    .error (.invalidName .type text)

/-- The name with slashes between its parts. -/
def internalName (name : ClassName) : Text :=
  name.text.slashed

/-- The dotted package, empty for the default package. -/
def package (name : ClassName) : Text :=
  match name.text.splitAtLast? '.' with
  | some (package, _) => package
  | none => []

/-- The name without its package. -/
def simpleName (name : ClassName) : Text :=
  match name.text.splitAtLast? '.' with
  | some (_, simple) => simple
  | none => name.text

/-- The dotted name of a class with a given simple name in a given package. -/
def qualified (package simple : Text) : Text :=
  if package.isEmpty then simple else package ++ '.' :: simple

@[ext] theorem ext (left right : ClassName) (same : left.text = right.text) :
    left = right := by
  cases left
  cases right
  simpa using same

/-- Reading succeeds exactly on the text of a class name. -/
theorem ofText_eq_ok_iff (text : Text) (name : ClassName) :
    ofText text = .ok name ↔ name.text = text := by
  unfold ofText
  constructor
  · intro accepted
    split at accepted
    · cases accepted
      rfl
    · cases accepted
  · rintro rfl
    simp [name.valid]

@[simp] theorem ofText_text (name : ClassName) : ofText name.text = .ok name :=
  (ofText_eq_ok_iff name.text name).2 rfl

/-- A refused text is quoted as it was given. -/
theorem ofText_eq_error_iff (text : Text) (error : MappingError) :
    ofText text = .error error ↔
      isClassName text = false ∧ error = .invalidName .type text := by
  unfold ofText
  split <;> rename_i valid
  · simp [valid]
  · simp [valid, eq_comm]

end ClassName
end ObfuscationMap
