import ObfuscationMap.JavaType.Descriptor
import ObfuscationMap.Proofs.JavaType.Brackets
import ObfuscationMap.Proofs.Name.Characters

/-!
# Reading back what types are written as

A descriptor gives back every type, also if dots stand for slashes in it. An internal
name gives back a type unless the class in it is spelled like a primitive type, up to
case; and no other type is ever read from a source name or an internal name.
-/

namespace ObfuscationMap

/-- A sequence of steps that succeeds has succeeded in its first. -/
theorem exists_ok_of_bind_eq_ok
    {ε α β : Type}
    {first : Except ε α}
    {next : α -> Except ε β}
    {result : β}
    (succeeded : first >>= next = .ok result) :
    ∃ value, first = .ok value ∧ next value = .ok result := by
  cases first with
  | error refusal => cases succeeded
  | ok value => exact ⟨value, rfl, succeeded⟩

/-- What was changed after it succeeded has succeeded. -/
theorem exists_ok_of_map_eq_ok
    {ε α β : Type}
    {first : Except ε α}
    {change : α -> β}
    {result : β}
    (succeeded : first.map change = .ok result) :
    ∃ value, first = .ok value ∧ change value = result := by
  cases first with
  | error refusal => cases succeeded
  | ok value => exact ⟨value, rfl, Except.ok.inj succeeded⟩

namespace JavaType

/-- The class in a type, if there is one, is not spelled like a primitive type. -/
def IsNameable (type : JavaType) : Prop :=
  ∀ name, type.innermost = .reference name ->
    ∀ primitive : Primitive, Text.sameIgnoringCase primitive.name name.text = false

theorem ofName?_eq_none_iff (text : Text) :
    Primitive.ofName? text = none ↔
      ∀ primitive : Primitive, Text.sameIgnoringCase primitive.name text = false := by
  simp only [Option.eq_none_iff_forall_ne_some, ne_eq, Primitive.ofName?_eq_some_iff,
    Bool.not_eq_true]

theorem isNameable_iff (type : JavaType) :
    type.IsNameable ↔
      (type.innermostClass?.all fun name => (Primitive.ofName? name.text).isNone) = true := by
  unfold IsNameable innermostClass?
  cases type.innermost <;> simp [className?, ← ofName?_eq_none_iff]

instance (type : JavaType) : Decidable type.IsNameable :=
  decidable_of_iff _ type.isNameable_iff.symm

/-! ## Stems -/

theorem map_toLower_of_ofName?
    {stem : Text}
    {kind : Primitive}
    (found : Primitive.ofName? stem = some kind) :
    stem.map Char.toLower = kind.name := by
  have same := beq_iff_eq.1 ((Primitive.ofName?_eq_some_iff stem kind).1 found)
  rw [← same]
  cases kind <;> rfl

theorem not_mem_of_ofName?
    {stem : Text}
    {kind : Primitive}
    (found : Primitive.ofName? stem = some kind)
    {c : Char}
    (foreign : ∀ kind : Primitive, c.toLower ∉ kind.name) :
    c ∉ stem := by
  intro cIn
  have lower := List.mem_map_of_mem (f := Char.toLower) cIn
  rw [map_toLower_of_ofName? found] at lower
  exact foreign kind lower

/-- A stem is read as a primitive type or as the class that it names. -/
theorem ofStem_cases
    {stem : Text}
    {inner : JavaType}
    (read : ofStem stem = .ok inner) :
    (∃ kind, Primitive.ofName? stem = some kind ∧ inner = .primitive kind) ∨
      ∃ name : ClassName, Primitive.ofName? stem = none ∧ name.text = stem ∧
        inner = .reference name := by
  rw [ofStem] at read
  cases found : Primitive.ofName? stem with
  | some kind =>
      rw [found] at read
      cases read
      exact .inl ⟨kind, rfl, rfl⟩
  | none =>
      rw [found] at read
      obtain ⟨name, accepted, rfl⟩ := exists_ok_of_map_eq_ok read
      exact .inr ⟨name, rfl, (ClassName.ofText_eq_ok_iff stem name).1 accepted, rfl⟩

/-- A stem that is read has no brackets, and it is not empty. -/
theorem plain_of_ofStem
    {stem : Text}
    {inner : JavaType}
    (read : ofStem stem = .ok inner) :
    ']' ∉ stem ∧ stem ≠ [] := by
  rcases ofStem_cases read with ⟨kind, found, -⟩ | ⟨name, -, rfl, -⟩
  · refine ⟨not_mem_of_ofName? found fun kind => by cases kind <;> decide, ?_⟩
    rintro rfl
    cases found
  · exact ⟨name.not_mem_text (by decide), name.text_ne_nil⟩

/-- The stem of a nameable type is read as the type without its dimensions. -/
theorem ofStem_innermost
    {type : JavaType}
    (nameable : type.IsNameable) :
    ofStem type.innermost.sourceName = .ok type.innermost := by
  induction type with
  | reference name =>
      have noPrimitive := (ofName?_eq_none_iff name.text).2 (nameable name rfl)
      change ofStem name.text = .ok (.reference name)
      rw [ofStem, noPrimitive, ClassName.ofText_text]
      rfl
  | primitive kind => cases kind <;> rfl
  | array element step => exact step nameable

/-! ## Source names and internal names -/

/-- A stem and a pair of brackets for each dimension are read as a type if the stem is read
as the type without its dimensions. -/
theorem ofSourceName_of_ofStem
    {stem : Text}
    {type : JavaType}
    (read : ofStem stem = .ok type.innermost) :
    ofSourceName (stem ++ brackets type.depth) = .ok type := by
  obtain ⟨plain, nonempty⟩ := plain_of_ofStem read
  rw [ofSourceName, splitBrackets_append_brackets plain]
  simp only [List.isEmpty_iff, nonempty, if_false, read, Except.map, arrayOf_innermost]

theorem dotted_internalName (type : JavaType) :
    type.internalName.dotted = type.sourceName := by
  induction type with
  | reference name => exact name.dotted_internalName
  | primitive kind => cases kind <;> rfl
  | array element step =>
      rw [internalName, Text.dotted, Text.replace_append, ← Text.dotted, step, sourceName]
      rfl

/-- A nameable type is read back from its source name. -/
theorem ofSourceName_sourceName
    {type : JavaType}
    (nameable : type.IsNameable) :
    ofSourceName type.sourceName = .ok type := by
  rw [sourceName_eq_append]
  exact ofSourceName_of_ofStem (ofStem_innermost nameable)

/-- A nameable type is read back from its internal name. -/
theorem ofInternalName_internalName
    {type : JavaType}
    (nameable : type.IsNameable) :
    ofInternalName type.internalName = .ok type := by
  rw [ofInternalName, dotted_internalName, ofSourceName_sourceName nameable]

/-- What is read as a source name is a stem followed by pairs of brackets. -/
theorem exists_stem_of_ofSourceName
    {name : Text}
    {type : JavaType}
    (read : ofSourceName name = .ok type) :
    ∃ stem depth inner, name = stem ++ brackets depth ∧ ofStem stem = .ok inner ∧
      type = inner.arrayOf depth := by
  rw [ofSourceName] at read
  simp only at read
  split at read
  · cases read
  · obtain ⟨inner, stemRead, rfl⟩ := exists_ok_of_map_eq_ok read
    exact ⟨_, _, inner, (splitBrackets_eq_append name).symm, stemRead, rfl⟩

/-- Only nameable types are read from source names. -/
theorem isNameable_of_ofSourceName
    {text : Text}
    {type : JavaType}
    (read : ofSourceName text = .ok type) :
    type.IsNameable := by
  obtain ⟨stem, depth, inner, -, stemRead, rfl⟩ := exists_stem_of_ofSourceName read
  intro name inside
  rw [innermost_arrayOf] at inside
  rcases ofStem_cases stemRead with ⟨kind, -, rfl⟩ | ⟨other, noPrimitive, same, rfl⟩
  · cases inside
  · cases inside
    rw [same]
    exact (ofName?_eq_none_iff _).1 noPrimitive

/-- Only nameable types are read from internal names. -/
theorem isNameable_of_ofInternalName
    {text : Text}
    {type : JavaType}
    (read : ofInternalName text = .ok type) :
    type.IsNameable :=
  isNameable_of_ofSourceName read

theorem ne_nil_of_ofInternalName
    {text : Text}
    {type : JavaType}
    (read : ofInternalName text = .ok type) :
    text ≠ [] := by
  rintro rfl
  cases read

/-! ## Descriptors -/

/-- The last character of a descriptor is no bracket. -/
theorem exists_descriptor_eq_append (type : JavaType) :
    ∃ front last, type.descriptor = front ++ [last] ∧ last ≠ '[' := by
  induction type with
  | reference name => exact ⟨'L' :: name.internalName, ';', rfl, by decide⟩
  | primitive kind => exact ⟨[], kind.code, rfl, by cases kind <;> decide⟩
  | array element step =>
      obtain ⟨front, last, split, plain⟩ := step
      exact ⟨'[' :: front, last, by rw [descriptor, split, List.cons_append], plain⟩

/-- The body of an object descriptor is read as its class, also if dots stand for slashes. -/
theorem ofObjectBody_of_slashed
    {body : Text}
    {name : ClassName}
    (same : body.slashed = name.internalName) :
    ofObjectBody (body ++ [';']) = .ok (.reference name) := by
  have dotted : body.dotted = name.text := by
    rw [← Text.dotted_slashed, same, name.dotted_internalName]
  rw [ofObjectBody, List.getLast?_concat, if_pos rfl, List.dropLast_concat, dotted,
    ClassName.ofText_text]
  rfl

theorem ofPrimitiveCode_code (kind : Primitive) :
    ofPrimitiveCode kind.code [] = .ok (.primitive kind) := by
  rw [ofPrimitiveCode, Primitive.ofCode?_code]
  rfl

/-- A text with slashes for dots that is an object descriptor has the same parts. -/
theorem exists_body_of_slashed
    {text : Text}
    {name : ClassName}
    (same : text.slashed = (reference name).descriptor) :
    ∃ body : Text, text = 'L' :: (body ++ [';']) ∧ body.slashed = name.internalName := by
  obtain ⟨inside, rfl, insideSame⟩ := Text.exists_cons_of_slashed_eq (by decide) same
  obtain ⟨body, closing, rfl, bodySame, closingSame⟩ :=
    Text.exists_append_of_slashed_eq insideSame
  exact ⟨body, by rw [Text.eq_of_slashed_eq closingSame (by decide)], bodySame⟩

/-- Every type is read from its descriptor, also if dots stand for slashes. -/
theorem ofDescriptor_of_slashed
    {text : Text}
    {type : JavaType}
    (same : text.slashed = type.descriptor) :
    ofDescriptor text = .ok type := by
  induction type generalizing text with
  | reference name =>
      obtain ⟨body, rfl, bodySame⟩ := exists_body_of_slashed same
      rw [ofDescriptor, if_neg (by decide), if_pos rfl, ofObjectBody_of_slashed bodySame]
  | primitive kind =>
      have noBracket : kind.code ≠ '[' := by cases kind <;> decide
      have noObject : kind.code ≠ 'L' := by cases kind <;> decide
      have code : text = [kind.code] := Text.eq_of_slashed_eq same (by cases kind <;> decide)
      rw [code, ofDescriptor, if_neg noBracket, if_neg noObject, ofPrimitiveCode_code]
  | array element step =>
      obtain ⟨rest, rfl, restSame⟩ := Text.exists_cons_of_slashed_eq (by decide) same
      have mixed : (rest.all fun c => c == '[') = false := by
        obtain ⟨front, last, split, plain⟩ := element.exists_descriptor_eq_append
        have lastIn : last ∈ rest.slashed := by simp [restSame, split]
        obtain ⟨c, cIn, rfl⟩ := List.mem_map.1 lastIn
        refine List.all_eq_false.2 ⟨c, cIn, fun bracket => plain ?_⟩
        rw [beq_iff_eq.1 bracket, if_neg (by decide)]
      rw [ofDescriptor, if_pos rfl, mixed, if_neg Bool.false_ne_true, step restSame]
      rfl

@[simp] theorem slashed_descriptor (type : JavaType) :
    type.descriptor.slashed = type.descriptor := by
  induction type with
  | reference name =>
      rw [descriptor, ClassName.internalName, Text.slashed, Text.replace_append,
        Text.replace_cons, ← Text.slashed, Text.slashed_slashed]
      rfl
  | primitive kind => cases kind <;> rfl
  | array element step =>
      rw [descriptor, Text.slashed, Text.replace_cons, ← Text.slashed, step]
      rfl

/-- Every type is read back from its descriptor. -/
theorem ofDescriptor_descriptor (type : JavaType) :
    ofDescriptor type.descriptor = .ok type :=
  ofDescriptor_of_slashed type.slashed_descriptor

/-! ## Written types are solid -/

theorem isSolid_primitiveName (kind : Primitive) : kind.name.IsSolid := by
  cases kind <;> decide

theorem isSolid_internalName (type : JavaType) : type.internalName.IsSolid := by
  induction type with
  | reference name => exact name.isSolid_internalName
  | primitive kind => exact isSolid_primitiveName kind
  | array element step => exact step.append (by decide)

theorem isSolid_descriptor (type : JavaType) : type.descriptor.IsSolid := by
  induction type with
  | reference name =>
      have opening : Text.IsSolid ['L'] := by decide
      have closing : Text.IsSolid [';'] := by decide
      exact (opening.append name.isSolid_internalName).append closing
  | primitive kind => cases kind <;> decide
  | array element step =>
      have bracket : Text.IsSolid ['['] := by decide
      exact bracket.append step

end JavaType
end ObfuscationMap
