import ObfuscationMap.Text.Blank
import ObfuscationMap.Text.Lines

/-!
# Words on a line

A line made of words with single spaces between them is read back as these words.
It is trimmed already, and being without white space at its ends and within its
words, it is also one whole line of a text.
-/

namespace ObfuscationMap
namespace Text

/-- A solid text is not empty and holds no white space. -/
structure IsSolid (text : Text) : Prop where
  nonempty : text ≠ []
  unbroken : ∀ c ∈ text, isBlank c = false

theorem isSolid_iff (text : Text) :
    text.IsSolid ↔ (!text.isEmpty && text.all fun c => !isBlank c) = true := by
  rw [Bool.and_eq_true, Bool.not_eq_true', List.isEmpty_eq_false_iff, List.all_eq_true]
  simp only [Bool.not_eq_true']
  exact ⟨fun solid => ⟨solid.nonempty, solid.unbroken⟩, fun solid => ⟨solid.1, solid.2⟩⟩

instance (text : Text) : Decidable text.IsSolid :=
  decidable_of_iff _ (isSolid_iff text).symm

theorem IsSolid.append
    {left right : Text}
    (leftSolid : left.IsSolid)
    (rightSolid : right.IsSolid) :
    IsSolid (left ++ right) where
  nonempty := List.append_ne_nil_of_left_ne_nil leftSolid.nonempty right
  unbroken c cIn := by
    rcases List.mem_append.1 cIn with onLeft | onRight
    · exact leftSolid.unbroken c onLeft
    · exact rightSolid.unbroken c onRight

/-- Words split at white space. -/
theorem words_append_blank
    {blank : Char}
    (white : isBlank blank = true)
    (left right : Text) :
    words (left ++ blank :: right) = words left ++ words right := by
  rw [words, List.splitOnP_append_cons left right white, List.filter_append]
  rfl

theorem words_of_isSolid {text : Text} (solid : text.IsSolid) : words text = [text] := by
  have nonempty : text.isEmpty = false := List.isEmpty_eq_false_iff.2 solid.nonempty
  rw [words, List.splitOnP_eq_singleton solid.unbroken, List.filter_cons, nonempty]
  rfl

/-- Solid texts with spaces between them are the words of the line. -/
theorem words_intercalate
    {pieces : List Text}
    (solid : ∀ piece ∈ pieces, piece.IsSolid) :
    words ([' '].intercalate pieces) = pieces := by
  induction pieces with
  | nil => rfl
  | cons first rest step =>
      have firstWord := words_of_isSolid (solid first List.mem_cons_self)
      have restWords := step fun piece pieceIn => solid piece (List.mem_cons_of_mem _ pieceIn)
      cases rest with
      | nil => rw [List.intercalate_singleton, firstWord]
      | cons second others =>
          rw [List.intercalate_cons_cons, List.append_assoc, List.singleton_append,
            words_append_blank (by decide), firstWord, restWords, List.singleton_append]

/-- A trimmed text starts and ends with something else than white space. -/
structure IsTrimmed (text : Text) : Prop where
  first : ∃ c rest, text = c :: rest ∧ isBlank c = false
  last : ∃ front c, text = front ++ [c] ∧ isBlank c = false

theorem IsSolid.isTrimmed {text : Text} (solid : text.IsSolid) : text.IsTrimmed where
  first := by
    obtain ⟨c, rest, rfl⟩ := List.exists_cons_of_ne_nil solid.nonempty
    exact ⟨c, rest, rfl, solid.unbroken c List.mem_cons_self⟩
  last := by
    have split := List.dropLast_concat_getLast solid.nonempty
    exact ⟨_, _, split.symm, solid.unbroken _ (List.getLast_mem solid.nonempty)⟩

theorem IsTrimmed.between
    {left right : Text}
    (leftTrimmed : left.IsTrimmed)
    (rightTrimmed : right.IsTrimmed)
    (middle : Text) :
    IsTrimmed (left ++ middle ++ right) where
  first := by
    obtain ⟨c, rest, rfl, solid⟩ := leftTrimmed.first
    exact ⟨c, rest ++ middle ++ right, by simp, solid⟩
  last := by
    obtain ⟨front, c, rfl, solid⟩ := rightTrimmed.last
    exact ⟨left ++ middle ++ front, c, by simp, solid⟩

theorem trimEnd_append_singleton
    (text : Text)
    {last : Char}
    (solid : isBlank last = false) :
    trimEnd (text ++ [last]) = text ++ [last] := by
  induction text with
  | nil => simp [trimEnd, solid]
  | cons c rest step =>
      rw [trimEnd] at step ⊢
      rw [List.cons_append, List.foldr_cons, step]
      simp

theorem IsTrimmed.trim_eq {text : Text} (trimmed : text.IsTrimmed) : trim text = text := by
  obtain ⟨c, rest, start, solid⟩ := trimmed.first
  have kept : text.dropWhile isBlank = text := by
    rw [start, List.dropWhile_cons_of_neg (by simp [solid])]
  obtain ⟨front, final, split, finalSolid⟩ := trimmed.last
  rw [trim, kept, split, trimEnd_append_singleton front finalSolid]

/-- A line of solid words is trimmed. -/
theorem isTrimmed_intercalate
    {first : Text}
    {rest : List Text}
    (solid : ∀ piece ∈ first :: rest, piece.IsSolid) :
    IsTrimmed ([' '].intercalate (first :: rest)) := by
  induction rest generalizing first with
  | nil =>
      rw [List.intercalate_singleton]
      exact (solid first List.mem_cons_self).isTrimmed
  | cons second others step =>
      have later := step fun piece pieceIn => solid piece (List.mem_cons_of_mem _ pieceIn)
      rw [List.intercalate_cons_cons]
      exact (solid first List.mem_cons_self).isTrimmed.between later [' ']

theorem eq_space_or_mem_of_mem_intercalate
    {c : Char}
    {pieces : List Text}
    (cIn : c ∈ [' '].intercalate pieces) :
    c = ' ' ∨ ∃ piece ∈ pieces, c ∈ piece := by
  induction pieces with
  | nil => cases cIn
  | cons first rest step =>
      cases rest with
      | nil =>
          rw [List.intercalate_singleton] at cIn
          exact .inr ⟨first, List.mem_cons_self, cIn⟩
      | cons second others =>
          rw [List.intercalate_cons_cons, List.mem_append, List.mem_append,
            List.mem_singleton] at cIn
          rcases cIn with (inFirst | space) | later
          · exact .inr ⟨first, List.mem_cons_self, inFirst⟩
          · exact .inl space
          · rcases step later with space | ⟨piece, pieceIn, inPiece⟩
            · exact .inl space
            · exact .inr ⟨piece, List.mem_cons_of_mem _ pieceIn, inPiece⟩

/-- A line of solid words holds no line feed and does not end in a carriage return. -/
theorem plain_intercalate
    {first : Text}
    {rest : List Text}
    (solid : ∀ piece ∈ first :: rest, piece.IsSolid) :
    '\n' ∉ [' '].intercalate (first :: rest) ∧
      ([' '].intercalate (first :: rest)).getLast? ≠ some '\r' := by
  constructor
  · intro feedIn
    rcases eq_space_or_mem_of_mem_intercalate feedIn with same | ⟨piece, pieceIn, inPiece⟩
    · exact absurd same (by decide)
    · exact absurd ((solid piece pieceIn).unbroken '\n' inPiece) (by decide)
  · obtain ⟨front, final, split, finalSolid⟩ := (isTrimmed_intercalate solid).last
    rw [split, List.getLast?_concat]
    rintro ⟨⟩
    exact absurd finalSolid (by decide)

end Text
end ObfuscationMap
