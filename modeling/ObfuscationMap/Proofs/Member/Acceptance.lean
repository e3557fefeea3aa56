import ObfuscationMap.Proofs.Member.NormalForm
import ObfuscationMap.Proofs.Sample

/-!
# The texts that are read as a signature

Opening parentheses after the first have no meaning among the parameters of a signature, and
they can be left out of every text that is read. Without them a text is read as a signature
exactly if it is the descriptor of the signature with some dots for slashes.
-/

namespace ObfuscationMap

namespace Text

/-- The text without the occurrences of a character after its first. -/
def keepFirst (c : Char) : Text -> Text
  | [] => []
  | d :: rest => if d = c then d :: rest.filter (· ≠ c) else d :: keepFirst c rest

theorem keepFirst_of_count_le
    {c : Char}
    {text : Text}
    (single : text.count c ≤ 1) :
    text.keepFirst c = text := by
  induction text with
  | nil => rfl
  | cons d rest step =>
      rw [keepFirst]
      by_cases here : d = c
      · subst here
        have absent : d ∉ rest := by
          rw [List.count_cons_self] at single
          exact List.count_eq_zero.1 (Nat.le_zero.1 (Nat.le_of_succ_le_succ single))
        have kept : rest.filter (· ≠ d) = rest := by
          rw [List.filter_eq_self]
          intro other otherIn
          rw [decide_eq_true_eq]
          rintro rfl
          exact absent otherIn
        rw [if_pos rfl, kept]
      · rw [List.count_cons_of_ne here] at single
        rw [if_neg here, step single]

end Text

namespace Signature

/-- A signature that is read is the text with slashes for dots and without its meaningless
parentheses. -/
theorem descriptor_eq_slashed_keepFirst
    {text : Text}
    {signature : Signature}
    (read : ofDescriptor text = .ok signature) :
    signature.descriptor = (text.keepFirst '(').slashed := by
  rw [descriptor_of_ofDescriptor read]
  obtain ⟨inside, after, rfl, -, -⟩ := exists_readParameters_of_ofDescriptor read
  rw [normalSignature, List.cons_append, Text.keepFirst, if_pos rfl]
  rfl

/-- A text with no more than one opening parenthesis is read exactly as the signature whose
descriptor it is with slashes for dots. A text that is read at all is read as the same
signature without its later opening parentheses, and the descriptor of any parameters and
any result is read back. -/
theorem signature_spellings :
    (∀ text signature, text.count '(' ≤ 1 ->
      (ofDescriptor text = .ok signature ↔ text.slashed = signature.descriptor)) ∧
    (∀ text signature, ofDescriptor text = .ok signature ->
      ofDescriptor (text.keepFirst '(') = .ok signature) ∧
    (∀ parameters result,
      ofDescriptor (descriptor { parameters, result }) = .ok { parameters, result }) := by
  refine ⟨?exact, ?later, fun _ _ => ofDescriptor_descriptor _⟩
  case exact =>
    intro text signature single
    constructor
    · intro read
      rw [descriptor_eq_slashed_keepFirst read, Text.keepFirst_of_count_le single]
    · exact ofDescriptor_of_slashed
  case later =>
    intro text signature read
    exact ofDescriptor_of_slashed (descriptor_eq_slashed_keepFirst read).symm

/-- A matrix of integers and a class lead to an array of classes. -/
def mixedSignature : Signature where
  parameters := [.array (.array (.primitive .int)), .named "a.b$C".toList]
  result := .array (.named "a.b".toList)

/-- Dots among slashes, and parentheses between the brackets of an array, before a class and
at the end of the parameters. -/
theorem signature_spellings_mixedSignature :
    "([[ILa.b$C;)[La/b;".toList.count '(' ≤ 1 ∧
    (ofDescriptor "([[ILa.b$C;)[La/b;".toList = .ok mixedSignature ↔
      Text.slashed "([[ILa.b$C;)[La/b;".toList = mixedSignature.descriptor) ∧
    ofDescriptor "(([([I(La.b$C;()[La/b;".toList = .ok mixedSignature ∧
    ofDescriptor (Text.keepFirst '(' "(([([I(La.b$C;()[La/b;".toList) = .ok mixedSignature ∧
    ofDescriptor mixedSignature.descriptor = .ok mixedSignature := by
  obtain ⟨exact, later, back⟩ := signature_spellings
  have single : "([[ILa.b$C;)[La/b;".toList.count '(' ≤ 1 := by decide
  have crowded : ofDescriptor "(([([I(La.b$C;()[La/b;".toList = .ok mixedSignature := by rfl
  exact ⟨single, exact _ _ single, crowded, later _ _ crowded, back _ _⟩

end Signature
end ObfuscationMap
