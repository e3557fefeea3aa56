import ObfuscationMap.Proofs.Member.RoundTrip
import ObfuscationMap.Proofs.Sample
import ObfuscationMap.Serial.Decode

/-!
# Joined names and stored members

A joined name is a text of the declaring type, a slash and the name, and it is read as exactly
that. A field is stored as its joined name, and a method as its joined name and its signature.
Both come back exactly if their declaring type is nameable. The types of a signature are
stored as descriptors, which all types have, so they stand in the way of nothing.
-/

namespace ObfuscationMap

/-- A field is read back from its joined name exactly if its declaring type is nameable. -/
theorem Field.ofInternalName_internalName_iff (field : Field) :
    ofInternalName field.internalName = .ok field ↔ field.owner.IsNameable :=
  ⟨isNameable_of_ofInternalName, ofInternalName_internalName⟩

/-- A method is read back from its joined name and its signature exactly if its declaring type
is nameable. -/
theorem Method.ofParts_internalName_iff (method : Method) :
    ofParts method.internalName method.signature.descriptor = .ok method ↔
      method.owner.IsNameable :=
  ⟨isNameable_of_ofParts, ofParts_internalName⟩

/-- Fields and methods come back from their texts exactly if their declaring types are
nameable, whatever the types of a signature. What is read as a member is a text that is read
as its declaring type, a slash and its name, which is an identifier; for a method, the
signature is read from a text of its own. -/
theorem joinedName_spellings :
    (∀ field : Field,
      Field.ofInternalName field.internalName = .ok field ↔ field.owner.IsNameable) ∧
    (∀ method : Method,
      Method.ofParts method.internalName method.signature.descriptor = .ok method ↔
        method.owner.IsNameable) ∧
    (∀ joined field, Field.ofInternalName joined = .ok field ↔
      ∃ ownerText, joined = ownerText ++ '/' :: field.name.text ∧
        JavaType.ofInternalName ownerText = .ok field.owner ∧
        Name.isIdentifier field.name.text = true) ∧
    (∀ joined signature method, Method.ofParts joined signature = .ok method ↔
      Signature.ofDescriptor signature = .ok method.signature ∧
        ∃ ownerText, joined = ownerText ++ '/' :: method.name.text ∧
          JavaType.ofInternalName ownerText = .ok method.owner ∧
          Name.isIdentifier method.name.text = true) := by
  refine ⟨?fieldsBack, ?methodsBack, ?fields, ?methods⟩
  case fieldsBack => exact Field.ofInternalName_internalName_iff
  case methodsBack => exact Method.ofParts_internalName_iff
  case fields =>
    intro joined field
    simp only [Field.ofInternalName_eq_ok_iff, field.name.valid, and_true]
  case methods =>
    intro joined signature method
    simp only [Method.ofParts_eq_ok_iff, method.name.valid, and_true]

/-- A field of the class `Int` is taken for one of the primitive type, and a method that has
this class in its signature alone is not. -/
example :
    Field.ofInternalName (Field.internalName ⟨.named "Int".toList, .ofLetter 'x'⟩) =
        .ok ⟨.primitive .int, .ofLetter 'x'⟩ ∧
      Method.ofParts "a/B/f".toList "(LInt;)V".toList =
        .ok (.onto (.named "a.B".toList) (.ofLetter 'f') (.named "Int".toList)) := by
  exact ⟨rfl, rfl⟩

namespace SerialValue

/-- A refusal that is passed on is no success. -/
theorem mapError_refused_eq_ok_iff
    {α : Type}
    (result : Except MappingError α)
    (value : α) :
    result.mapError SerialError.refused = .ok value ↔ result = .ok value := by
  cases result with
  | error refusal => exact iff_of_false nofun nofun
  | ok found =>
      have passed : (Except.ok found).mapError SerialError.refused = .ok found := rfl
      rw [passed, Except.ok.injEq, Except.ok.injEq]

/-- A stored field is read by its joined name. -/
theorem toField_ofField_eq_ok_iff (field : Field) :
    toField (ofField field) = .ok field ↔ field.owner.IsNameable := by
  have read : toField (ofField field) =
      (Field.ofInternalName field.internalName).mapError .refused := rfl
  rw [read, mapError_refused_eq_ok_iff, Field.ofInternalName_internalName_iff]

/-- A stored method is read by its joined name and its signature. -/
theorem toMethod_ofMethod_eq_ok_iff (method : Method) :
    toMethod (ofMethod method) = .ok method ↔ method.owner.IsNameable := by
  have read : toMethod (ofMethod method) =
      (Method.ofParts method.internalName method.signature.descriptor).mapError .refused := rfl
  rw [read, mapError_refused_eq_ok_iff, Method.ofParts_internalName_iff]

end SerialValue
end ObfuscationMap
