import ObfuscationMap.Proofs.JavaType.NormalForm
import ObfuscationMap.Proofs.Sample

/-!
# The texts that are read as a type

A text is read as a descriptor exactly if it is the descriptor of a type with some dots for
slashes. It is read as a source name exactly if it spells a type: letter by letter if there
is a class in the type, and up to the case of letters if there is none. A class that is
itself spelled like a primitive type has a descriptor but no source name.
-/

namespace ObfuscationMap

/-! ## The case of letters -/

namespace Text

/-- A capital letter has a letter as its lower case. -/
theorem isAlpha_toLower
    {c : Char}
    (upper : c.val ≥ 'A'.val ∧ c.val ≤ 'Z'.val) :
    c.toLower.isAlpha = true := by
  have bounds : 65 ≤ c.val.toNat ∧ c.val.toNat ≤ 90 := upper
  have shifted : c.toLower.val = c.val + 32 := congrArg Char.val (dif_pos upper)
  have lowered : c.toLower.val.toNat = c.val.toNat + 32 := by
    rw [shifted, UInt32.toNat_add]
    exact Nat.mod_eq_of_lt (Nat.add_lt_of_lt_sub (Nat.lt_of_le_of_lt bounds.2 (by decide)))
  have low : 97 ≤ c.toLower.val.toNat := by omega
  have high : c.toLower.val.toNat ≤ 122 := by omega
  have lower : c.toLower.isLower = true :=
    Bool.and_eq_true_iff.2 ⟨decide_eq_true low, decide_eq_true high⟩
  exact Bool.or_eq_true_iff.2 (.inr lower)

/-- Only letters have a lower case of their own. -/
theorem toLower_eq_self
    {c : Char}
    (noLetter : c.toLower.isAlpha = false) :
    c.toLower = c := by
  by_cases upper : c.val ≥ 'A'.val ∧ c.val ≤ 'Z'.val
  · rw [isAlpha_toLower upper] at noLetter
    cases noLetter
  · exact dif_neg upper

/-- What has no letters in lower case is in lower case already. -/
theorem eq_of_map_toLower_eq
    {text other : Text}
    (same : text.map Char.toLower = other)
    (noLetters : ∀ c ∈ other, c.isAlpha = false) :
    text = other := by
  have kept : ∀ c ∈ text, c.toLower = id c := by
    intro c cIn
    exact toLower_eq_self (noLetters _ (same ▸ List.mem_map_of_mem cIn))
  rw [← same, List.map_congr_left kept, List.map_id]

theorem sameIgnoringCase_append
    {left right : Text}
    (same : sameIgnoringCase left right = true)
    (rest : Text) :
    sameIgnoringCase (left ++ rest) (right ++ rest) = true := by
  rw [sameIgnoringCase, beq_iff_eq] at same ⊢
  rw [List.map_append, List.map_append, same]

end Text

namespace JavaType

/-! ## Spellings -/

/-- A text spells a type: up to the case of its letters if the type is primitive under its
dimensions, and exactly if there is a class in it, which may not itself be spelled like a
primitive type. -/
inductive IsSpelledAs (type : JavaType) (text : Text) : Prop
  | primitive
      {kind : Primitive}
      (inside : type.innermost = .primitive kind)
      (same : Text.sameIgnoringCase type.sourceName text = true)
  | reference
      {name : ClassName}
      (inside : type.innermost = .reference name)
      (apart : ∀ primitive : Primitive, Text.sameIgnoringCase primitive.name name.text = false)
      (same : text = type.sourceName)

theorem isAlpha_eq_false_of_mem_brackets
    {c : Char}
    {depth : Nat}
    (cIn : c ∈ brackets depth) :
    c.isAlpha = false := by
  have edge := mem_of_mem_brackets cIn
  simp only [List.mem_cons, List.not_mem_nil, or_false] at edge
  rcases edge with rfl | rfl <;> decide

/-- A text is read as a type that it spells. -/
theorem ofSourceName_of_isSpelledAs
    {type : JavaType}
    {text : Text}
    (spelled : type.IsSpelledAs text) :
    ofSourceName text = .ok type := by
  cases spelled with
  | @primitive kind inside same =>
      rw [sourceName_eq_append, inside, Text.sameIgnoringCase, beq_iff_eq, List.map_append,
        map_brackets (by decide) (by decide), eq_comm] at same
      obtain ⟨stem, pairs, rfl, stemSame, pairsSame⟩ := List.map_eq_append_iff.1 same
      rw [Text.eq_of_map_toLower_eq pairsSame fun _ => isAlpha_eq_false_of_mem_brackets]
      have found : Primitive.ofName? stem = some kind :=
        (Primitive.ofName?_eq_some_iff stem kind).2 (beq_iff_eq.2 stemSame.symm)
      apply ofSourceName_of_ofStem
      rw [ofStem, found, inside]
  | @reference name inside apart same =>
      have nameable : type.IsNameable := by
        rintro other otherInside
        rw [inside] at otherInside
        cases otherInside
        exact apart
      rw [same, ofSourceName_sourceName nameable]

/-- A text that is read as a type spells it. -/
theorem isSpelledAs_of_ofSourceName
    {text : Text}
    {type : JavaType}
    (read : ofSourceName text = .ok type) :
    type.IsSpelledAs text := by
  obtain ⟨stem, depth, inner, rfl, stemRead, rfl⟩ := exists_stem_of_ofSourceName read
  rcases ofStem_cases stemRead with ⟨kind, found, rfl⟩ | ⟨name, noPrimitive, rfl, rfl⟩
  · have same := (Primitive.ofName?_eq_some_iff stem kind).1 found
    refine .primitive (innermost_arrayOf _ depth) ?_
    rw [sourceName_arrayOf]
    exact Text.sameIgnoringCase_append same _
  · refine .reference (innermost_arrayOf _ depth) ((ofName?_eq_none_iff _).1 noPrimitive) ?_
    rw [sourceName_arrayOf]
    rfl

/-- A type is read back from its source name exactly if it is nameable. -/
theorem ofSourceName_sourceName_iff (type : JavaType) :
    ofSourceName type.sourceName = .ok type ↔ type.IsNameable :=
  ⟨isNameable_of_ofSourceName, ofSourceName_sourceName⟩

/-- Source names are read exactly as the types that they spell, and internal names as the
types that they spell with dots for slashes. So the types that are read back from their
names are those without a class that is spelled like a primitive type. -/
theorem sourceName_spellings :
    (∀ text type, ofSourceName text = .ok type ↔ type.IsSpelledAs text) ∧
    (∀ text type, ofInternalName text = .ok type ↔ type.IsSpelledAs text.dotted) ∧
    (∀ type, ofSourceName type.sourceName = .ok type ↔ type.IsNameable) ∧
    (∀ type, ofInternalName type.internalName = .ok type ↔ type.IsNameable) := by
  have spelled : ∀ text type, ofSourceName text = .ok type ↔ type.IsSpelledAs text :=
    fun _ _ => ⟨isSpelledAs_of_ofSourceName, ofSourceName_of_isSpelledAs⟩
  refine ⟨spelled, ?internal, ofSourceName_sourceName_iff, ?internalBack⟩
  case internal =>
    intro text type
    rw [ofInternalName, spelled]
  case internalBack =>
    intro type
    rw [ofInternalName, dotted_internalName, ofSourceName_sourceName_iff]

example : ofSourceName "Int[]".toList = .ok (.array (.primitive .int)) := by rfl

/-! ## Descriptors -/

/-- Descriptors are read exactly as the types whose descriptors they are with slashes for
dots. So every type is read back from its descriptor, also those that no source name is
read as. -/
theorem descriptor_spellings :
    (∀ text type, ofDescriptor text = .ok type ↔ text.slashed = type.descriptor) ∧
    (∀ type, ofDescriptor type.descriptor = .ok type) ∧
    (∀ type, (∃ text, ofSourceName text = .ok type) ↔ type.IsNameable) := by
  refine ⟨?exact, ofDescriptor_descriptor, ?named⟩
  case exact =>
    intro text type
    constructor
    · intro read
      exact (descriptor_of_ofDescriptor read).symm
    · exact ofDescriptor_of_slashed
  case named =>
    intro type
    constructor
    · rintro ⟨text, read⟩
      exact isNameable_of_ofSourceName read
    · intro nameable
      exact ⟨type.sourceName, ofSourceName_sourceName nameable⟩

example : ¬(JavaType.named "Int".toList).IsNameable := by decide

example : ofDescriptor "[LInt;".toList = .ok (.array (.named "Int".toList)) := by rfl

end JavaType
end ObfuscationMap
