import ObfuscationMap.Proofs.JavaType.NormalForm
import ObfuscationMap.Proofs.Member.RoundTrip

/-!
# The normal forms of members

Members are read in more spellings than they are written in: their declaring types have
other spellings, and a signature may hold opening parentheses that have no meaning. Each
spelling that is read has a normal form, which shows in the text alone, and what is read is
written in it.
-/

namespace ObfuscationMap

/-! ## Signatures -/

namespace Signature

/-- The normal form of a signature: only the first opening parenthesis is kept, and names have
slashes. -/
def normalSignature (text : Text) : Text :=
  Text.slashed (text.take 1 ++ (text.drop 1).filter (· ≠ '('))

theorem opening_not_mem_flatMap_descriptor (parameters : List JavaType) :
    '(' ∉ parameters.flatMap JavaType.descriptor := by
  intro openingIn
  obtain ⟨type, -, inType⟩ := List.mem_flatMap.1 openingIn
  exact type.not_mem_descriptor (by decide) (by decide) inType

/-- A character other than the opening parenthesis goes from the rest to what is pending. -/
theorem slashed_append_filter_cons
    {c : Char}
    (apart : c ≠ '(')
    (pending rest : Text) :
    Text.slashed (pending ++ (c :: rest).filter (· ≠ '(')) =
      Text.slashed (pending ++ [c] ++ rest.filter (· ≠ '(')) := by
  rw [List.filter_cons_of_pos (by simp [apart]), List.append_assoc, List.singleton_append]

/-- The last character of a parameter ends what was pending. -/
theorem flatMap_descriptor_of_last
    {whole pending rest : Text}
    {last : Char}
    {parameters : List JavaType}
    (apart : last ≠ '(')
    (later : ∀ {others : List JavaType}, readParameters whole [] false rest = .ok others ->
      others.flatMap JavaType.descriptor = Text.slashed ([] ++ rest.filter (· ≠ '(')))
    (read : (do
      let parameter <- JavaType.ofDescriptor (pending ++ [last])
      let others <- readParameters whole [] false rest
      return parameter :: others) = .ok parameters) :
    parameters.flatMap JavaType.descriptor =
      Text.slashed (pending ++ (last :: rest).filter (· ≠ '(')) := by
  obtain ⟨parameter, parameterRead, read⟩ := exists_ok_of_bind_eq_ok read
  obtain ⟨others, othersRead, read⟩ := exists_ok_of_bind_eq_ok read
  cases read
  rw [List.flatMap_cons, JavaType.descriptor_of_ofDescriptor parameterRead, later othersRead,
    slashed_append_filter_cons apart, Text.slashed, Text.slashed, Text.slashed,
    ← Text.replace_append, List.nil_append]

/-- Parameters that are read are written as what was pending and the rest, without its
opening parentheses. -/
theorem flatMap_descriptor_of_readParameters
    {whole pending rest : Text}
    {inObject : Bool}
    {parameters : List JavaType}
    (read : readParameters whole pending inObject rest = .ok parameters) :
    parameters.flatMap JavaType.descriptor =
      Text.slashed (pending ++ rest.filter (· ≠ '(')) := by
  fun_induction readParameters whole pending inObject rest generalizing parameters with
  | case1 pending none =>
      cases read
      rw [List.isEmpty_iff.1 none]
      rfl
  | case2 => cases read
  | case3 => cases read
  | case4 pending rest step => exact flatMap_descriptor_of_last (by decide) step read
  | case5 pending c rest inside step =>
      have written := step read
      by_cases opening : c = '('
      · -- The parenthesis would stand in the descriptor of the type that is read.
        subst opening
        have openingIn : '(' ∈ parameters.flatMap JavaType.descriptor := by
          rw [written, Text.slashed, Text.replace_append, Text.replace_append]
          simp
        exact absurd openingIn (opening_not_mem_flatMap_descriptor parameters)
      · rw [written, slashed_append_filter_cons opening]
  | case6 pending rest step =>
      rw [step read, List.filter_cons_of_neg (by decide)]
  | case7 pending rest apart step =>
      rw [step read, slashed_append_filter_cons apart]
  | case8 pending rest apart _ step =>
      rw [step read, slashed_append_filter_cons apart]
  | case9 pending c rest apart _ _ step => exact flatMap_descriptor_of_last apart step read

/-- The descriptor of a type has no parentheses to be left out. -/
theorem filter_opening_of_ofDescriptor
    {text : Text}
    {type : JavaType}
    (read : JavaType.ofDescriptor text = .ok type) :
    text.filter (· ≠ '(') = text := by
  rw [List.filter_eq_self]
  intro c cIn
  rw [decide_eq_true_eq]
  rintro rfl
  apply type.not_mem_descriptor (c := '(') (by decide) (by decide)
  rw [JavaType.descriptor_of_ofDescriptor read]
  exact Text.mem_slashed_of_mem (by decide) cIn

/-- What is read as a signature is its parameters between parentheses and its result. -/
theorem exists_readParameters_of_ofDescriptor
    {text : Text}
    {signature : Signature}
    (read : ofDescriptor text = .ok signature) :
    ∃ inside after, text = '(' :: inside ++ ')' :: after ∧
      readParameters text [] false ('(' :: inside) = .ok signature.parameters ∧
      JavaType.ofDescriptor after = .ok signature.result := by
  rw [ofDescriptor] at read
  split at read
  · cases read
  · next first =>
      obtain ⟨rest, rfl⟩ := List.head?_eq_some_iff.1 (Decidable.not_not.1 first)
      rw [List.dropWhile_cons_of_pos (by decide), List.takeWhile_cons_of_pos (by decide)] at read
      split at read
      · cases read
      · next closing after split =>
          have found := List.head?_dropWhile_not (· ≠ ')') rest
          rw [split, List.head?_cons] at found
          obtain rfl : closing = ')' := by simpa using found
          have whole : rest.takeWhile (· ≠ ')') ++ ')' :: after = rest := by
            rw [← split, List.takeWhile_append_dropWhile]
          obtain ⟨parameters, parametersRead, read⟩ := exists_ok_of_bind_eq_ok read
          obtain ⟨result, resultRead, read⟩ := exists_ok_of_bind_eq_ok read
          cases read
          refine ⟨rest.takeWhile (· ≠ ')'), after, ?_, parametersRead, resultRead⟩
          rw [List.cons_append, whole]

/-- A signature that is read is written in its normal form. -/
theorem descriptor_of_ofDescriptor
    {text : Text}
    {signature : Signature}
    (read : ofDescriptor text = .ok signature) :
    signature.descriptor = normalSignature text := by
  obtain ⟨inside, after, rfl, parametersRead, resultRead⟩ :=
    exists_readParameters_of_ofDescriptor read
  have parameters := flatMap_descriptor_of_readParameters parametersRead
  rw [List.nil_append, List.filter_cons_of_neg (by decide)] at parameters
  have normal : normalSignature ('(' :: inside ++ ')' :: after) =
      Text.slashed ('(' :: (inside ++ ')' :: after).filter (· ≠ '(')) := rfl
  rw [descriptor, parameters, JavaType.descriptor_of_ofDescriptor resultRead, normal,
    List.filter_append, List.filter_cons_of_pos (by decide),
    filter_opening_of_ofDescriptor resultRead, Text.slashed, Text.slashed, Text.slashed,
    Text.replace_cons, Text.replace_append, Text.replace_cons]
  rfl

end Signature

/-! ## Members -/

namespace MemberName

/-- The normal form of a joined name: that of the declaring type before the name. -/
def normalJoined (joined : Text) : Text :=
  match joined.splitAtLast? '/' with
  | some (owner, name) => JavaType.normalName owner ++ '/' :: name
  | none => joined

/-- The normal form of a joined name that is read has the internal name of the declaring
type. -/
theorem normalJoined_join
    {ownerText : Text}
    {owner : JavaType}
    (ownerRead : JavaType.ofInternalName ownerText = .ok owner)
    (name : MemberName) :
    normalJoined (ownerText ++ '/' :: name.text) = owner.internalName ++ '/' :: name.text := by
  rw [normalJoined, splitAtLast?_join, JavaType.internalName_of_ofInternalName ownerRead]

end MemberName

/-- A field that is read is written in the normal form of its joined name. -/
theorem Field.internalName_of_ofInternalName
    {joined : Text}
    {field : Field}
    (read : ofInternalName joined = .ok field) :
    field.internalName = MemberName.normalJoined joined := by
  obtain ⟨ownerText, rfl, ownerRead⟩ := (ofInternalName_eq_ok_iff joined field).1 read
  exact (MemberName.normalJoined_join ownerRead field.name).symm

/-- A method that is read is written in the normal forms of its joined name and signature. -/
theorem Method.normal_of_ofParts
    {joined signature : Text}
    {method : Method}
    (read : ofParts joined signature = .ok method) :
    method.internalName = MemberName.normalJoined joined ∧
      method.signature.descriptor = Signature.normalSignature signature := by
  obtain ⟨signatureRead, ownerText, rfl, ownerRead⟩ :=
    (ofParts_eq_ok_iff joined signature method).1 read
  exact ⟨(MemberName.normalJoined_join ownerRead method.name).symm,
    Signature.descriptor_of_ofDescriptor signatureRead⟩

end ObfuscationMap
