import ObfuscationMap.Member.Field
import ObfuscationMap.Member.Method
import ObfuscationMap.Proofs.JavaType.RoundTrip

/-!
# Reading back what members are written as

The descriptors of parameters stand next to each other, and each of them shows where
it ends. So every signature is read back. A joined name is split at the last slash,
which no member name holds, so a member is read back if its declaring type is.
-/

namespace ObfuscationMap

namespace JavaType

/-- A character that is neither in names nor between them stands in no descriptor. -/
theorem not_mem_descriptor
    (type : JavaType)
    {c : Char}
    (foreign : Name.isTypeChar c = false)
    (apart : c ∉ ['/', ';', '[']) :
    c ∉ type.descriptor := by
  simp only [List.mem_cons, List.not_mem_nil, or_false, not_or] at apart
  have different : ∀ d, Name.isTypeChar d = true -> c ≠ d := by
    rintro d typeChar rfl
    rw [typeChar] at foreign
    cases foreign
  induction type with
  | reference name =>
      have absent := name.not_mem_internalName apart.1 foreign
      simp [descriptor, absent, apart, different 'L' (by decide)]
  | primitive kind =>
      have code := different kind.code (by cases kind <;> decide)
      simpa [descriptor] using code
  | array element step => simp [descriptor, step, apart]

end JavaType

namespace Signature

/-- An object descriptor that has been entered is read up to its semicolon. -/
theorem readParameters_object
    (whole pending body rest : Text)
    (unclosed : ';' ∉ body) :
    readParameters whole pending true (body ++ ';' :: rest) = do
      let parameter <- JavaType.ofDescriptor (pending ++ (body ++ [';']))
      let others <- readParameters whole [] false rest
      return parameter :: others := by
  induction body generalizing pending with
  | nil => rw [List.nil_append, readParameters, if_pos rfl, List.nil_append]
  | cons c body step =>
      rw [List.mem_cons, not_or] at unclosed
      rw [List.cons_append, readParameters, if_neg (Ne.symm unclosed.1), step _ unclosed.2]
      simp

/-- After some opening brackets, a descriptor is read with them up to its end, also if dots
stand for slashes in it. -/
theorem readParameters_of_slashed
    (whole pending rest : Text)
    {text : Text}
    {type : JavaType}
    (same : text.slashed = type.descriptor) :
    readParameters whole pending false (text ++ rest) = do
      let parameter <- JavaType.ofDescriptor (pending ++ text)
      let others <- readParameters whole [] false rest
      return parameter :: others := by
  induction type generalizing pending text with
  | reference name =>
      obtain ⟨body, rfl, bodySame⟩ := JavaType.exists_body_of_slashed same
      have unclosed : ';' ∉ body := by
        intro closingIn
        apply name.not_mem_internalName (c := ';') (by decide) (by decide)
        rw [← bodySame]
        exact Text.mem_slashed_of_mem (by decide) closingIn
      have shape : 'L' :: (body ++ [';']) ++ rest = 'L' :: (body ++ ';' :: rest) := by simp
      rw [shape, readParameters, if_neg (by decide), if_neg (by decide), if_pos rfl,
        readParameters_object whole _ _ _ unclosed]
      simp
  | primitive kind =>
      have code : text = [kind.code] := Text.eq_of_slashed_eq same (by cases kind <;> decide)
      subst code
      cases kind <;>
        rw [List.singleton_append, readParameters, if_neg (by decide), if_neg (by decide),
          if_neg (by decide)]
  | array element step =>
      obtain ⟨inside, rfl, insideSame⟩ := Text.exists_cons_of_slashed_eq (by decide) same
      rw [List.cons_append, readParameters, if_neg (by decide), if_pos rfl, step _ insideSame]
      simp

/-- The descriptors of parameters, one after another, are read as the parameters. -/
theorem readParameters_flatMap
    (whole : Text)
    {text : Text}
    {parameters : List JavaType}
    (same : text.slashed = parameters.flatMap JavaType.descriptor) :
    readParameters whole [] false text = .ok parameters := by
  induction parameters generalizing text with
  | nil =>
      obtain rfl : text = [] := List.map_eq_nil_iff.1 same
      rfl
  | cons first others step =>
      rw [List.flatMap_cons] at same
      obtain ⟨text, rest, rfl, firstSame, restSame⟩ := Text.exists_append_of_slashed_eq same
      rw [readParameters_of_slashed whole [] rest firstSame, List.nil_append,
        JavaType.ofDescriptor_of_slashed firstSame, step restSame]
      rfl

/-- Every signature is read from its descriptor, also if dots stand for slashes. -/
theorem ofDescriptor_of_slashed
    {text : Text}
    {signature : Signature}
    (same : text.slashed = signature.descriptor) :
    ofDescriptor text = .ok signature := by
  rw [descriptor, List.cons_append] at same
  obtain ⟨opened, rfl, openedSame⟩ := Text.exists_cons_of_slashed_eq (by decide) same
  obtain ⟨inside, closed, rfl, insideSame, closedSame⟩ :=
    Text.exists_append_of_slashed_eq openedSame
  obtain ⟨after, rfl, afterSame⟩ := Text.exists_cons_of_slashed_eq (by decide) closedSame
  have unclosed : ∀ c ∈ '(' :: inside, decide (c ≠ ')') = true := by
    intro c cIn
    rw [decide_eq_true_eq]
    rintro rfl
    rcases List.mem_cons.1 cIn with opening | inInside
    · exact absurd opening (by decide)
    · have inParameters := Text.mem_slashed_of_mem (by decide) inInside
      rw [insideSame] at inParameters
      obtain ⟨type, -, inType⟩ := List.mem_flatMap.1 inParameters
      exact type.not_mem_descriptor (by decide) (by decide) inType
  rw [← List.cons_append, ofDescriptor, if_neg (by simp),
    List.dropWhile_append_of_pos unclosed, List.takeWhile_append_of_pos unclosed,
    List.dropWhile_cons_of_neg (by simp), List.takeWhile_cons_of_neg (by simp),
    List.append_nil]
  simp only [readParameters, if_true, readParameters_flatMap _ insideSame,
    JavaType.ofDescriptor_of_slashed afterSame]
  rfl

@[simp] theorem slashed_descriptor (signature : Signature) :
    signature.descriptor.slashed = signature.descriptor := by
  have parameters : Text.slashed (signature.parameters.flatMap JavaType.descriptor) =
      signature.parameters.flatMap JavaType.descriptor := by
    have each : (fun type : JavaType => type.descriptor.slashed) = JavaType.descriptor :=
      funext JavaType.slashed_descriptor
    rw [Text.slashed, Text.replace, List.map_flatMap]
    exact congrArg signature.parameters.flatMap each
  rw [descriptor, List.cons_append, Text.slashed, Text.replace_cons, Text.replace_append,
    Text.replace_cons, ← Text.slashed, ← Text.slashed, parameters,
    signature.result.slashed_descriptor]
  rfl

/-- Every signature is read back from its descriptor. -/
theorem ofDescriptor_descriptor (signature : Signature) :
    ofDescriptor signature.descriptor = .ok signature :=
  ofDescriptor_of_slashed signature.slashed_descriptor

theorem isSolid_descriptor (signature : Signature) : signature.descriptor.IsSolid where
  nonempty := by
    rw [descriptor, List.cons_append]
    exact List.cons_ne_nil _ _
  unbroken c cIn := by
    rw [descriptor, List.cons_append, List.mem_cons, List.mem_append, List.mem_cons] at cIn
    rcases cIn with rfl | inParameters | rfl | inResult
    · decide
    · obtain ⟨type, -, inType⟩ := List.mem_flatMap.1 inParameters
      exact type.isSolid_descriptor.unbroken c inType
    · decide
    · exact signature.result.isSolid_descriptor.unbroken c inResult

end Signature

namespace MemberName

/-- The last slash of a joined name stands before the name. -/
theorem splitAtLast?_join (owner : Text) (name : MemberName) :
    (owner ++ '/' :: name.text).splitAtLast? '/' = some (owner, name.text) :=
  (Text.splitAtLast?_eq_some_iff _ _ _ _).2 ⟨rfl, name.slash_not_mem_text⟩

theorem splitJoined_join
    {owner : Text}
    (nonempty : owner ≠ [])
    (name : MemberName) :
    splitJoined (owner ++ '/' :: name.text) = .ok (owner, name.text) := by
  rw [splitJoined, splitAtLast?_join]
  simp [nonempty, name.isSolid_text.nonempty]

/-- The parts of a joined name are the name again with a slash between them. -/
theorem eq_join_of_splitJoined
    {joined owner name : Text}
    (split : splitJoined joined = .ok (owner, name)) :
    joined = owner ++ '/' :: name := by
  rw [splitJoined] at split
  split at split
  · next found =>
      split at split
      · cases split
      · cases split
        exact ((Text.splitAtLast?_eq_some_iff _ _ _ _).1 found).1
  · cases split

end MemberName

namespace Field

/-- A text is read as a field exactly if it is a text of the declaring type before the name,
with a slash between them. -/
theorem ofInternalName_eq_ok_iff (joined : Text) (field : Field) :
    ofInternalName joined = .ok field ↔
      ∃ ownerText, joined = ownerText ++ '/' :: field.name.text ∧
        JavaType.ofInternalName ownerText = .ok field.owner := by
  constructor
  · intro read
    obtain ⟨⟨ownerText, nameText⟩, split, read⟩ := exists_ok_of_bind_eq_ok read
    obtain ⟨owner, ownerRead, read⟩ := exists_ok_of_bind_eq_ok read
    obtain ⟨name, nameRead, read⟩ := exists_ok_of_bind_eq_ok read
    cases read
    obtain rfl := (MemberName.ofText_eq_ok_iff nameText name).1 nameRead
    exact ⟨ownerText, MemberName.eq_join_of_splitJoined split, ownerRead⟩
  · rintro ⟨ownerText, rfl, ownerRead⟩
    rw [ofInternalName, MemberName.splitJoined_join (JavaType.ne_nil_of_ofInternalName ownerRead)]
    simp only [bind, Except.bind, ownerRead, MemberName.ofText_text]
    rfl

/-- A field with a nameable declaring type is read back from its joined name. -/
theorem ofInternalName_internalName
    {field : Field}
    (nameable : field.owner.IsNameable) :
    ofInternalName field.internalName = .ok field :=
  (ofInternalName_eq_ok_iff _ _).2 ⟨_, rfl, JavaType.ofInternalName_internalName nameable⟩

/-- The declaring type of a field that was read is nameable. -/
theorem isNameable_of_ofInternalName
    {joined : Text}
    {field : Field}
    (read : ofInternalName joined = .ok field) :
    field.owner.IsNameable := by
  obtain ⟨ownerText, -, ownerRead⟩ := (ofInternalName_eq_ok_iff joined field).1 read
  exact JavaType.isNameable_of_ofInternalName ownerRead

theorem isSolid_internalName (field : Field) : field.internalName.IsSolid := by
  have slash : Text.IsSolid ['/'] := by decide
  exact field.owner.isSolid_internalName.append (slash.append field.name.isSolid_text)

end Field

namespace Method

/-- A text is read as a method with a given signature exactly if it is a text of the declaring
type before the name, with a slash between them. -/
theorem ofInternalName_eq_ok_iff (joined : Text) (signature : Signature) (method : Method) :
    ofInternalName joined signature = .ok method ↔
      signature = method.signature ∧
        ∃ ownerText, joined = ownerText ++ '/' :: method.name.text ∧
          JavaType.ofInternalName ownerText = .ok method.owner := by
  constructor
  · intro read
    obtain ⟨⟨ownerText, nameText⟩, split, read⟩ := exists_ok_of_bind_eq_ok read
    obtain ⟨owner, ownerRead, read⟩ := exists_ok_of_bind_eq_ok read
    obtain ⟨name, nameRead, read⟩ := exists_ok_of_bind_eq_ok read
    cases read
    obtain rfl := (MemberName.ofText_eq_ok_iff nameText name).1 nameRead
    exact ⟨rfl, ownerText, MemberName.eq_join_of_splitJoined split, ownerRead⟩
  · rintro ⟨rfl, ownerText, rfl, ownerRead⟩
    rw [ofInternalName, MemberName.splitJoined_join (JavaType.ne_nil_of_ofInternalName ownerRead)]
    simp only [bind, Except.bind, ownerRead, MemberName.ofText_text]
    rfl

/-- Two texts are read as a method exactly if the first is a text of the declaring type before
the name, with a slash between them, and the second is read as the signature. -/
theorem ofParts_eq_ok_iff (joined signature : Text) (method : Method) :
    ofParts joined signature = .ok method ↔
      Signature.ofDescriptor signature = .ok method.signature ∧
        ∃ ownerText, joined = ownerText ++ '/' :: method.name.text ∧
          JavaType.ofInternalName ownerText = .ok method.owner := by
  constructor
  · intro read
    obtain ⟨parsed, signatureRead, read⟩ := exists_ok_of_bind_eq_ok read
    obtain ⟨rfl, joinedRead⟩ := (ofInternalName_eq_ok_iff joined parsed method).1 read
    exact ⟨signatureRead, joinedRead⟩
  · rintro ⟨signatureRead, joinedRead⟩
    rw [ofParts, signatureRead]
    exact (ofInternalName_eq_ok_iff joined _ method).2 ⟨rfl, joinedRead⟩

/-- A method with a nameable declaring type is read back from its joined name and its
signature. -/
theorem ofParts_internalName
    {method : Method}
    (nameable : method.owner.IsNameable) :
    ofParts method.internalName method.signature.descriptor = .ok method :=
  (ofParts_eq_ok_iff _ _ _).2 ⟨Signature.ofDescriptor_descriptor method.signature, _, rfl,
    JavaType.ofInternalName_internalName nameable⟩

/-- The declaring type of a method that was read is nameable. -/
theorem isNameable_of_ofParts
    {joined signature : Text}
    {method : Method}
    (read : ofParts joined signature = .ok method) :
    method.owner.IsNameable := by
  obtain ⟨-, ownerText, -, ownerRead⟩ := (ofParts_eq_ok_iff joined signature method).1 read
  exact JavaType.isNameable_of_ofInternalName ownerRead

theorem isSolid_internalName (method : Method) : method.internalName.IsSolid := by
  have slash : Text.IsSolid ['/'] := by decide
  exact method.owner.isSolid_internalName.append (slash.append method.name.isSolid_text)

end Method
end ObfuscationMap
