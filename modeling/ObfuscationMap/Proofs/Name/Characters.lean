import ObfuscationMap.ClassName
import ObfuscationMap.Member.Name
import ObfuscationMap.Proofs.Text.Separators
import ObfuscationMap.Proofs.Text.Words

/-!
# The characters of names

No letter or number is white space, so names are solid texts. The punctuation that
separates names from each other, and the brackets and semicolons of descriptors,
stand in no name.
-/

namespace ObfuscationMap
namespace Text

/-- No range of letters and numbers meets a range of white space. -/
theorem alphanumericRanges_apart_blankRanges :
    ∀ wide ∈ alphanumericRanges, ∀ white ∈ blankRanges,
      wide.2 < white.1 ∨ white.2 < wide.1 := by
  decide +kernel

theorem isBlank_eq_false_of_isAlphanum :
    ∀ code < 128, (Char.ofNat code).isAlphanum = true -> isBlank (Char.ofNat code) = false := by
  decide +kernel

theorem isBlank_eq_false_of_isAlphanumeric
    {c : Char}
    (wide : isAlphanumeric c = true) :
    isBlank c = false := by
  rw [isAlphanumeric] at wide
  split at wide
  · next ascii =>
      have solid := isBlank_eq_false_of_isAlphanum c.toNat ascii
      rw [Char.ofNat_toNat] at solid
      exact solid wide
  · obtain ⟨wideRange, wideIn, wideLow, wideHigh⟩ := (CodeRanges.covers_iff _ _).1 wide
    rw [← Bool.not_eq_true, isBlank, CodeRanges.covers_iff]
    rintro ⟨white, whiteIn, whiteLow, whiteHigh⟩
    rcases alphanumericRanges_apart_blankRanges _ wideIn _ whiteIn with before | after
    · omega
    · omega

theorem mem_splitOnP
    (separates : Char -> Bool)
    {c : Char}
    {text : Text}
    (cIn : c ∈ text) :
    separates c = true ∨ ∃ piece ∈ text.splitOnP separates, c ∈ piece := by
  induction text with
  | nil => cases cIn
  | cons d rest step =>
      rw [List.splitOnP_cons_eq_if_modifyHead]
      obtain ⟨first, others, split⟩ :=
        List.exists_cons_of_ne_nil (List.splitOnP_ne_nil separates rest)
      rw [split] at step ⊢
      by_cases here : separates d = true
      · rw [if_pos here]
        rcases List.mem_cons.1 cIn with rfl | later
        · exact .inl here
        · rcases step later with separating | ⟨piece, pieceIn, inPiece⟩
          · exact .inl separating
          · exact .inr ⟨piece, List.mem_cons_of_mem _ pieceIn, inPiece⟩
      · rw [if_neg here, List.modifyHead_cons]
        rcases List.mem_cons.1 cIn with rfl | later
        · exact .inr ⟨_, List.mem_cons_self, List.mem_cons_self⟩
        · rcases step later with separating | ⟨piece, pieceIn, inPiece⟩
          · exact .inl separating
          · rcases List.mem_cons.1 pieceIn with rfl | inOthers
            · exact .inr ⟨_, List.mem_cons_self, List.mem_cons_of_mem _ inPiece⟩
            · exact .inr ⟨piece, List.mem_cons_of_mem _ inOthers, inPiece⟩

end Text

namespace Name

/-- The characters of type names. -/
def isTypeChar (c : Char) : Bool :=
  isWordChar c || c == '.' || c == '$'

theorem isBlank_eq_false_of_isWordChar
    {c : Char}
    (word : isWordChar c = true) :
    Text.isBlank c = false := by
  rw [isWordChar, Bool.or_eq_true, beq_iff_eq] at word
  rcases word with wide | rfl
  · exact Text.isBlank_eq_false_of_isAlphanumeric wide
  · decide

theorem isBlank_eq_false_of_isTypeChar
    {c : Char}
    (inType : isTypeChar c = true) :
    Text.isBlank c = false := by
  simp only [isTypeChar, Bool.or_eq_true, beq_iff_eq] at inType
  rcases inType with (word | rfl) | rfl
  · exact isBlank_eq_false_of_isWordChar word
  · decide
  · decide

theorem isBlank_eq_false_of_isIdentifierChar
    {c : Char}
    (inMember : isIdentifierChar c = true) :
    Text.isBlank c = false := by
  simp only [isIdentifierChar, Bool.or_eq_true, beq_iff_eq] at inMember
  rcases inMember with ((word | rfl) | rfl) | rfl
  · exact isBlank_eq_false_of_isWordChar word
  · decide
  · decide
  · decide

theorem isTypeChar_of_mem
    {text : Text}
    (valid : isTypeName text = true)
    {c : Char}
    (cIn : c ∈ text) :
    isTypeChar c = true := by
  rw [isTypeName, List.all_eq_true] at valid
  simp only [isTypeChar, Bool.or_eq_true]
  rcases Text.mem_splitOnP (fun c => c == '.' || c == '$') cIn with
    separating | ⟨piece, pieceIn, inPiece⟩
  · simpa [or_assoc] using Or.inr separating
  · have word := valid piece pieceIn
    rw [isWord, Bool.and_eq_true, List.all_eq_true] at word
    exact .inl (.inl (word.2 c inPiece))

end Name

namespace ClassName

theorem text_ne_nil (name : ClassName) : name.text ≠ [] := by
  intro missing
  have valid := name.valid
  rw [missing] at valid
  exact absurd valid (by decide)

theorem isTypeChar_of_mem (name : ClassName) {c : Char} (cIn : c ∈ name.text) :
    Name.isTypeChar c = true := by
  have valid := name.valid
  rw [isClassName, Bool.and_eq_true] at valid
  exact Name.isTypeChar_of_mem valid.1 cIn

/-- A character that is no character of types stands in no class name. -/
theorem not_mem_text
    (name : ClassName)
    {c : Char}
    (foreign : Name.isTypeChar c = false) :
    c ∉ name.text := by
  intro cIn
  rw [name.isTypeChar_of_mem cIn] at foreign
  cases foreign

/-- An internal name is a class name with slashes. -/
theorem eq_slash_or_isTypeChar_of_mem
    (name : ClassName)
    {c : Char}
    (cIn : c ∈ name.internalName) :
    c = '/' ∨ Name.isTypeChar c = true := by
  rw [internalName, Text.slashed, Text.replace, List.mem_map] at cIn
  obtain ⟨d, dIn, rfl⟩ := cIn
  split
  · exact .inl rfl
  · exact .inr (name.isTypeChar_of_mem dIn)

theorem not_mem_internalName
    (name : ClassName)
    {c : Char}
    (noSlash : c ≠ '/')
    (foreign : Name.isTypeChar c = false) :
    c ∉ name.internalName := by
  intro cIn
  rcases name.eq_slash_or_isTypeChar_of_mem cIn with slash | inType
  · exact noSlash slash
  · rw [inType] at foreign
    cases foreign

theorem isSolid_internalName (name : ClassName) : name.internalName.IsSolid where
  nonempty := by
    rw [internalName, Text.slashed, Text.replace, ne_eq, List.map_eq_nil_iff]
    exact name.text_ne_nil
  unbroken c cIn := by
    rcases name.eq_slash_or_isTypeChar_of_mem cIn with rfl | inType
    · decide
    · exact Name.isBlank_eq_false_of_isTypeChar inType

/-- Dots and slashes are exchanged without loss. -/
theorem dotted_internalName (name : ClassName) : name.internalName.dotted = name.text := by
  have noSlash : '/' ∉ name.text := name.not_mem_text (by decide)
  rw [internalName, Text.dotted_slashed, Text.dotted_of_not_mem noSlash]

end ClassName

namespace MemberName

theorem isIdentifierChar_of_mem (name : MemberName) {c : Char} (cIn : c ∈ name.text) :
    Name.isIdentifierChar c = true := by
  have valid := name.valid
  rw [Name.isIdentifier, Bool.and_eq_true, List.all_eq_true] at valid
  exact valid.2 c cIn

theorem isSolid_text (name : MemberName) : name.text.IsSolid where
  nonempty := by
    intro missing
    have valid := name.valid
    rw [missing] at valid
    exact absurd valid (by decide)
  unbroken c cIn := Name.isBlank_eq_false_of_isIdentifierChar (name.isIdentifierChar_of_mem cIn)

theorem slash_not_mem_text (name : MemberName) : '/' ∉ name.text := by
  intro slashIn
  exact absurd (name.isIdentifierChar_of_mem slashIn) (by decide)

end MemberName
end ObfuscationMap
