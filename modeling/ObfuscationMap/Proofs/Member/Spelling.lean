import ObfuscationMap.Proofs.Member.RoundTrip
import ObfuscationMap.Proofs.Text.EncodedOrder

/-!
# The spelling of types and members

No two types have one internal name, not even the types that are not read back from theirs,
and so no two members have one joined name. Every character of these names and of
descriptors comes after the space that separates them on a line.
-/

namespace ObfuscationMap

/-! ## Characters -/

namespace Text

theorem isAboveSpace_iff (text : Text) :
    text.IsAboveSpace ↔ (text.all fun c => Nat.blt ' '.toNat c.toNat) = true := by
  simp only [IsAboveSpace, List.all_eq_true, Nat.blt_eq]

instance (text : Text) : Decidable text.IsAboveSpace :=
  decidable_of_iff _ (isAboveSpace_iff text).symm

theorem isAlphanum_eq_false_of_le_space :
    ∀ code < 33, (Char.ofNat code).isAlphanum = false := by
  decide

theorem space_lt_of_isAlphanumeric
    {c : Char}
    (wide : isAlphanumeric c = true) :
    ' '.toNat < c.toNat := by
  rw [isAlphanumeric] at wide
  split at wide
  · next ascii =>
      apply Nat.lt_of_not_le
      intro low
      have none := isAlphanum_eq_false_of_le_space c.toNat (Nat.lt_succ_of_le low)
      rw [Char.ofNat_toNat, wide] at none
      cases none
  · next beyond => exact Nat.lt_of_lt_of_le (by decide) (Nat.le_of_not_lt beyond)

end Text

namespace Name

theorem space_lt_of_isWordChar
    {c : Char}
    (word : isWordChar c = true) :
    ' '.toNat < c.toNat := by
  rw [isWordChar, Bool.or_eq_true, beq_iff_eq] at word
  rcases word with wide | rfl
  · exact Text.space_lt_of_isAlphanumeric wide
  · decide

theorem space_lt_of_isTypeChar
    {c : Char}
    (inType : isTypeChar c = true) :
    ' '.toNat < c.toNat := by
  simp only [isTypeChar, Bool.or_eq_true, beq_iff_eq] at inType
  rcases inType with (word | rfl) | rfl
  · exact space_lt_of_isWordChar word
  · decide
  · decide

theorem space_lt_of_isIdentifierChar
    {c : Char}
    (inMember : isIdentifierChar c = true) :
    ' '.toNat < c.toNat := by
  simp only [isIdentifierChar, Bool.or_eq_true, beq_iff_eq] at inMember
  rcases inMember with ((word | rfl) | rfl) | rfl
  · exact space_lt_of_isWordChar word
  · decide
  · decide
  · decide

end Name

theorem ClassName.isAboveSpace_internalName (name : ClassName) :
    name.internalName.IsAboveSpace := by
  intro c cIn
  rcases name.eq_slash_or_isTypeChar_of_mem cIn with rfl | inType
  · decide
  · exact Name.space_lt_of_isTypeChar inType

theorem MemberName.isAboveSpace_text (name : MemberName) : name.text.IsAboveSpace :=
  fun _ cIn => Name.space_lt_of_isIdentifierChar (name.isIdentifierChar_of_mem cIn)

namespace JavaType

theorem isAboveSpace_internalName (type : JavaType) : type.internalName.IsAboveSpace := by
  induction type with
  | reference name => exact name.isAboveSpace_internalName
  | primitive kind => cases kind <;> decide
  | array element step => exact step.append (by decide)

theorem isAboveSpace_descriptor (type : JavaType) : type.descriptor.IsAboveSpace := by
  induction type with
  | reference name =>
      have opening : Text.IsAboveSpace ['L'] := by decide
      have closing : Text.IsAboveSpace [';'] := by decide
      exact (opening.append name.isAboveSpace_internalName).append closing
  | primitive kind => cases kind <;> decide
  | array element step =>
      have bracket : Text.IsAboveSpace ['['] := by decide
      exact bracket.append step

end JavaType

theorem Signature.isAboveSpace_descriptor (signature : Signature) :
    signature.descriptor.IsAboveSpace := by
  intro c cIn
  rw [descriptor, List.cons_append, List.mem_cons, List.mem_append, List.mem_cons] at cIn
  rcases cIn with rfl | inParameters | rfl | inResult
  · decide
  · obtain ⟨type, -, inType⟩ := List.mem_flatMap.1 inParameters
    exact type.isAboveSpace_descriptor c inType
  · decide
  · exact signature.result.isAboveSpace_descriptor c inResult

theorem Field.isAboveSpace_internalName (field : Field) : field.internalName.IsAboveSpace := by
  have slash : Text.IsAboveSpace ['/'] := by decide
  exact field.owner.isAboveSpace_internalName.append (slash.append field.name.isAboveSpace_text)

theorem Method.isAboveSpace_internalName (method : Method) :
    method.internalName.IsAboveSpace := by
  have slash : Text.IsAboveSpace ['/'] := by decide
  exact method.owner.isAboveSpace_internalName.append
    (slash.append method.name.isAboveSpace_text)

/-! ## Names of one type or member alone -/

theorem Primitive.name_injective : Function.Injective Primitive.name := by
  intro left right same
  have found := ofName?_name left
  rw [same, ofName?_name] at found
  exact (Option.some.inj found).symm

namespace JavaType

/-- Under all its dimensions, a type is a class or a primitive type. -/
theorem innermost_cases (type : JavaType) :
    (∃ name, type.innermost = .reference name) ∨ ∃ kind, type.innermost = .primitive kind := by
  induction type with
  | reference name => exact .inl ⟨name, rfl⟩
  | primitive kind => exact .inr ⟨kind, rfl⟩
  | array element step => exact step

/-- The names of primitive types are reserved. -/
theorem name_ne_text (kind : Primitive) (name : ClassName) : kind.name ≠ name.text := by
  intro same
  have valid := name.valid
  rw [ClassName.isClassName, Bool.and_eq_true, Bool.not_eq_true', ClassName.isReserved,
    List.any_eq_false] at valid
  exact valid.2 kind kind.mem_all (beq_iff_eq.2 same)

theorem innermost_eq_of_sourceName_eq
    {left right : JavaType}
    (same : left.innermost.sourceName = right.innermost.sourceName) :
    left.innermost = right.innermost := by
  rcases left.innermost_cases with ⟨name, leftShape⟩ | ⟨kind, leftShape⟩ <;>
    rcases right.innermost_cases with ⟨other, rightShape⟩ | ⟨other, rightShape⟩ <;>
    rw [leftShape, rightShape] at same ⊢
  · exact congrArg reference (ClassName.ext _ _ same)
  · exact absurd same.symm (name_ne_text other name)
  · exact absurd same (name_ne_text kind other)
  · exact congrArg primitive (Primitive.name_injective same)

theorem splitBrackets_sourceName (type : JavaType) :
    splitBrackets type.sourceName = (type.innermost.sourceName, type.depth) := by
  induction type with
  | reference name => exact splitBrackets_of_not_mem (name.not_mem_text (by decide))
  | primitive kind => cases kind <;> rfl
  | array element step => rw [sourceName, splitBrackets_append, step, innermost, depth]

/-- No two types have one internal name. -/
theorem internalName_injective : Function.Injective internalName := by
  intro left right same
  have source : left.sourceName = right.sourceName := by
    rw [← dotted_internalName, same, dotted_internalName]
  have split := splitBrackets_sourceName left
  rw [source, splitBrackets_sourceName right, Prod.mk.injEq] at split
  rw [← arrayOf_innermost left, ← arrayOf_innermost right, ← split.2,
    innermost_eq_of_sourceName_eq split.1]

end JavaType

theorem MemberName.join_inj
    {leftOwner rightOwner : JavaType}
    {left right : MemberName}
    (same : leftOwner.internalName ++ '/' :: left.text =
      rightOwner.internalName ++ '/' :: right.text) :
    leftOwner = rightOwner ∧ left = right := by
  have split := splitJoined_join leftOwner.isSolid_internalName.nonempty left
  rw [same, splitJoined_join rightOwner.isSolid_internalName.nonempty, Except.ok.injEq,
    Prod.mk.injEq] at split
  exact ⟨JavaType.internalName_injective split.1.symm, MemberName.ext _ _ split.2.symm⟩

/-- No two fields have one joined name. -/
theorem Field.internalName_injective : Function.Injective Field.internalName := by
  intro left right same
  obtain ⟨owners, names⟩ := MemberName.join_inj same
  cases left
  cases right
  simp only at owners names
  rw [owners, names]

/-- No two signatures have one descriptor. -/
theorem Signature.descriptor_injective : Function.Injective Signature.descriptor := by
  intro left right same
  have read := ofDescriptor_descriptor left
  rw [same, ofDescriptor_descriptor] at read
  exact (Except.ok.inj read).symm

/-- A method is known by its joined name and its signature. -/
theorem Method.eq_of_internalName_of_descriptor
    {left right : Method}
    (sameName : left.internalName = right.internalName)
    (sameSignature : left.signature.descriptor = right.signature.descriptor) :
    left = right := by
  obtain ⟨owners, names⟩ := MemberName.join_inj sameName
  have signatures := Signature.descriptor_injective sameSignature
  cases left
  cases right
  simp only at owners names signatures
  rw [owners, names, signatures]

end ObfuscationMap
