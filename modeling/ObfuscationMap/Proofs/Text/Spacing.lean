import ObfuscationMap.Proofs.Text.Words

/-!
# Lines up to white space

White space between words may be made wider or narrower, of whatever blanks, and lines
may be indented or end in blanks. What stays are the words of the line, and with them
everything that is read off its words: that it is blank, and the character it starts with.
-/

namespace ObfuscationMap
namespace Text

/-- A gap is made of white space alone. -/
def IsGap (text : Text) : Prop :=
  ∀ c ∈ text, isBlank c = true

instance (text : Text) : Decidable text.IsGap :=
  decidable_of_iff (text.all isBlank = true) List.all_eq_true

/-- One line becomes another by changes of white space: gaps that are not empty take the
place of one another, and gaps are added at either end. -/
inductive Respaced : Text -> Text -> Prop
  | same (line : Text) : Respaced line line
  | between
      (left right : Text)
      {old new : Text}
      (oldGap : old.IsGap)
      (newGap : new.IsGap)
      (oldNonempty : old ≠ [])
      (newNonempty : new ≠ []) :
      Respaced (left ++ old ++ right) (left ++ new ++ right)
  | before
      (line : Text)
      {gap : Text}
      (blank : gap.IsGap) :
      Respaced line (gap ++ line)
  | after
      (line : Text)
      {gap : Text}
      (blank : gap.IsGap) :
      Respaced line (line ++ gap)
  | both
      {first second third : Text}
      (one : Respaced first second)
      (other : Respaced second third) :
      Respaced first third

/-! ## Words -/

theorem words_gap_append
    {gap : Text}
    (blank : gap.IsGap)
    (text : Text) :
    words (gap ++ text) = words text := by
  induction gap with
  | nil => rfl
  | cons c gap step =>
      obtain ⟨white, rest⟩ := List.forall_mem_cons.1 blank
      exact (words_append_blank white [] (gap ++ text)).trans (step rest)

theorem IsGap.words_eq_nil {gap : Text} (blank : gap.IsGap) : words gap = [] := by
  rw [← List.append_nil gap, words_gap_append blank]
  rfl

theorem words_append_gap
    (text : Text)
    {gap : Text}
    (blank : gap.IsGap) :
    words (text ++ gap) = words text := by
  cases gap with
  | nil => rw [List.append_nil]
  | cons c gap =>
      obtain ⟨white, rest⟩ := List.forall_mem_cons.1 blank
      rw [words_append_blank white, IsGap.words_eq_nil rest, List.append_nil]

theorem words_append_gap_append
    (left right : Text)
    {gap : Text}
    (blank : gap.IsGap)
    (nonempty : gap ≠ []) :
    words (left ++ gap ++ right) = words left ++ words right := by
  cases gap with
  | nil => exact absurd rfl nonempty
  | cons c gap =>
      obtain ⟨white, rest⟩ := List.forall_mem_cons.1 blank
      rw [List.append_assoc, List.cons_append, words_append_blank white,
        words_gap_append rest]

/-- Changes of white space keep the words. -/
theorem Respaced.words_eq
    {line other : Text}
    (respaced : Respaced line other) :
    words line = words other := by
  induction respaced with
  | same line => rfl
  | between left right oldGap newGap oldNonempty newNonempty =>
      rw [words_append_gap_append left right oldGap oldNonempty,
        words_append_gap_append left right newGap newNonempty]
  | before line blank => rw [words_gap_append blank]
  | after line blank => rw [words_append_gap line blank]
  | both _ _ firstSame secondSame => exact firstSame.trans secondSame

/-- A text that starts with a solid character has a first word that starts with it. -/
theorem exists_words_cons
    {c : Char}
    (solid : isBlank c = false)
    (rest : Text) :
    ∃ tail others, words (c :: rest) = (c :: tail) :: others := by
  obtain ⟨piece, pieces, split⟩ :=
    List.exists_cons_of_ne_nil (List.splitOnP_ne_nil isBlank rest)
  refine ⟨piece, pieces.filter fun piece => !piece.isEmpty, ?_⟩
  rw [words, List.splitOnP_cons_eq_if_modifyHead, split, solid]
  simp

/-! ## Trimming -/

/-- What is dropped at the end is a gap. -/
theorem exists_trimEnd_append (text : Text) :
    ∃ gap : Text, gap.IsGap ∧ trimEnd text ++ gap = text := by
  induction text with
  | nil => exact ⟨[], List.forall_mem_nil _, rfl⟩
  | cons c rest step =>
      obtain ⟨gap, blank, split⟩ := step
      have peeled : trimEnd (c :: rest) =
          if (trimEnd rest).isEmpty && isBlank c then [] else c :: trimEnd rest := rfl
      by_cases dropped : ((trimEnd rest).isEmpty && isBlank c) = true
      · rw [peeled, if_pos dropped]
        rw [Bool.and_eq_true, List.isEmpty_iff] at dropped
        rw [dropped.1, List.nil_append] at split
        subst split
        exact ⟨c :: gap, List.forall_mem_cons.2 ⟨dropped.2, blank⟩, rfl⟩
      · rw [peeled, if_neg dropped]
        exact ⟨gap, blank, by rw [List.cons_append, split]⟩

/-- Trimming keeps the words. -/
theorem words_trim (text : Text) : words (trim text) = words text := by
  obtain ⟨gap, blank, split⟩ := exists_trimEnd_append (text.dropWhile isBlank)
  have indent : IsGap (text.takeWhile isBlank) := List.all_eq_true.1 List.all_takeWhile
  calc
    words (trim text) = words (trim text ++ gap) := (words_append_gap _ blank).symm
    _ = words (text.dropWhile isBlank) := congrArg words split
    _ = words (text.takeWhile isBlank ++ text.dropWhile isBlank) :=
      (words_gap_append indent _).symm
    _ = words text := congrArg words List.takeWhile_append_dropWhile

/-- A trimmed text that is not empty starts with a solid character. -/
theorem isBlank_of_trim_eq_cons
    {text rest : Text}
    {c : Char}
    (trimmed : trim text = c :: rest) :
    isBlank c = false := by
  rw [trim] at trimmed
  cases kept : text.dropWhile isBlank with
  | nil =>
      rw [kept] at trimmed
      cases trimmed
  | cons d others =>
      have solid : isBlank d = false := by
        have stopped := List.head?_dropWhile_not isBlank text
        rw [kept] at stopped
        simpa using stopped
      rw [kept] at trimmed
      simp only [trimEnd, List.foldr_cons, solid, Bool.and_false, Bool.false_eq_true, if_false,
        List.cons.injEq] at trimmed
      rwa [← trimmed.1]

/-- A trimmed text starts as its first word does. -/
theorem head?_trim (text : Text) :
    (trim text).head? = (words text).head?.bind List.head? := by
  rw [← words_trim text]
  cases trimmed : trim text with
  | nil => rfl
  | cons c rest =>
      obtain ⟨tail, others, split⟩ := exists_words_cons (isBlank_of_trim_eq_cons trimmed) rest
      rw [split]
      rfl

/-- A line is blank exactly if it has no words. -/
theorem trim_eq_nil_iff (text : Text) : trim text = [] ↔ words text = [] := by
  rw [← words_trim text]
  cases trimmed : trim text with
  | nil => exact iff_of_true rfl rfl
  | cons c rest =>
      obtain ⟨tail, others, split⟩ := exists_words_cons (isBlank_of_trim_eq_cons trimmed) rest
      rw [split]
      exact iff_of_false (List.cons_ne_nil _ _) (List.cons_ne_nil _ _)

end Text
end ObfuscationMap
