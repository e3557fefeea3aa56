import ObfuscationMap.Proofs.JavaType.RoundTrip

/-!
# The normal forms of types

Types are read in more spellings than they are written in: dots may stand for slashes, and a
primitive type may be in any case. Each spelling that is read has a normal form, which shows
in the text alone, and the type that is read is written in it.
-/

namespace ObfuscationMap
namespace JavaType

/-! ## Internal names -/

/-- The normal form of an internal name: the name of a primitive type is in lower case, and
that of a class has slashes. -/
def normalName (name : Text) : Text :=
  if (Primitive.ofName? (name.takeWhile (· ≠ '['))).isSome then
    name.map Char.toLower
  else
    name.slashed

/-- A type that is read from an internal name is written in the normal form of the name. -/
theorem internalName_of_ofInternalName
    {name : Text}
    {type : JavaType}
    (read : ofInternalName name = .ok type) :
    type.internalName = normalName name := by
  obtain ⟨stem, depth, inner, shape, stemRead, rfl⟩ := exists_stem_of_ofSourceName read
  rw [internalName_arrayOf, normalName]
  rcases ofStem_cases stemRead with ⟨kind, found, rfl⟩ | ⟨className, noPrimitive, rfl, rfl⟩
  · have noBracket := not_mem_of_ofName? found (c := '[') fun kind => by cases kind <;> decide
    have noDot := not_mem_of_ofName? found (c := '.') fun kind => by cases kind <;> decide
    have plain : '.' ∉ name.dotted := by
      rw [shape, List.mem_append, not_or]
      exact ⟨noDot, fun dotIn => absurd (mem_of_mem_brackets dotIn) (by decide)⟩
    rw [Text.dotted_of_not_mem (Text.slash_not_mem_of_dotted plain)] at shape
    rw [shape, takeWhile_append_brackets noBracket, found, Option.isSome_some, if_pos rfl,
      List.map_append, map_toLower_of_ofName? found, map_brackets (by decide) (by decide)]
    rfl
  · have noBracket := className.not_mem_text (c := '[') (by decide)
    have start := Text.takeWhile_dotted name
    rw [shape, takeWhile_append_brackets noBracket] at start
    have none : Primitive.ofName? (name.takeWhile (· ≠ '[')) = none := by
      -- A primitive name has no slashes, so it would be the name of the class too.
      rw [Option.eq_none_iff_forall_ne_some]
      intro kind found
      have noSlash := not_mem_of_ofName? found (c := '/') fun kind => by cases kind <;> decide
      rw [Text.dotted_of_not_mem noSlash] at start
      rw [← start, noPrimitive] at found
      cases found
    rw [none, Option.isSome_none, if_neg Bool.false_ne_true, ← Text.slashed_dotted, shape,
      Text.slashed, Text.replace_append, ← Text.slashed, Text.replace,
      map_brackets (by decide) (by decide)]
    rfl

/-! ## Descriptors -/

/-- A type that is read from a descriptor is written as the descriptor with slashes. -/
theorem descriptor_of_ofDescriptor
    {text : Text}
    {type : JavaType}
    (read : ofDescriptor text = .ok type) :
    type.descriptor = text.slashed := by
  induction text generalizing type with
  | nil => cases read
  | cons c rest step =>
      rw [ofDescriptor] at read
      split at read
      · next bracket =>
          split at read
          · cases read
          · obtain ⟨element, elementRead, rfl⟩ := exists_ok_of_map_eq_ok read
            rw [descriptor, step elementRead, bracket]
            rfl
      · split at read
        · next object =>
            rw [ofObjectBody] at read
            split at read
            · next last =>
                obtain ⟨body, rfl⟩ := List.getLast?_eq_some_iff.1 last
                obtain ⟨name, nameRead, rfl⟩ := exists_ok_of_map_eq_ok read
                rw [List.dropLast_concat, ClassName.ofText_eq_ok_iff] at nameRead
                rw [descriptor, ClassName.internalName, nameRead, Text.slashed_dotted, object,
                  Text.slashed, Text.slashed, Text.replace_cons, Text.replace_append]
                rfl
            · cases read
        · rw [ofPrimitiveCode] at read
          split at read
          · cases read
          · next kind found =>
              split at read
              · next last =>
                  cases read
                  rw [List.isEmpty_iff.1 last, (Primitive.ofCode?_eq_some_iff c kind).1 found]
                  cases kind <;> rfl
              · cases read

end JavaType
end ObfuscationMap
