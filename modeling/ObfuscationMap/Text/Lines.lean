import ObfuscationMap.Text.Basic

/-!
# Lines

A line ends at each line feed, and one carriage return right before that line
feed belongs to the ending. What follows the last line feed is a line of its own
if it is not empty; a carriage return at its end stays. The rule is stated once,
for characters and for bytes, through the two codes that it looks at. Bytes are
split into lines before each line is decoded by itself, in the encoding UTF-8.
-/

namespace ObfuscationMap
namespace Text

variable {α : Type}

/-- Put an item at the front of the first line, or on a line of its own. -/
def pushItem (item : α) : List (List α) -> List (List α)
  | [] => [[item]]
  | line :: others => (item :: line) :: others

/-- The lines of a sequence, where `feed` ends a line and one `carriage` right
before it belongs to the ending. -/
def splitLines [DecidableEq α] (feed carriage : α) : List α -> List (List α)
  | [] => []
  | item :: rest =>
      if item = feed then
        [] :: splitLines feed carriage rest
      else if item = carriage ∧ rest.head? = some feed then
        splitLines feed carriage rest
      else
        pushItem item (splitLines feed carriage rest)

/-- The lines of a text. -/
def lines (text : Text) : List Text :=
  splitLines '\n' '\r' text

/-- The lines of a sequence of bytes, still encoded. -/
def byteLines (bytes : List UInt8) : List (List UInt8) :=
  splitLines 10 13 bytes

/-- The text that a sequence of bytes encodes, if it encodes one. -/
def decode? (bytes : List UInt8) : Option Text :=
  (String.fromUTF8? ⟨⟨bytes⟩⟩).map String.toList

/-- The lines of a sequence of bytes, nothing standing for a line that cannot be
decoded. -/
def decodedLines (bytes : List UInt8) : List (Option Text) :=
  (byteLines bytes).map decode?

/-- A text in which each given line is ended by a line feed. -/
def unlines (lines : List Text) : Text :=
  lines.flatMap fun line => line ++ ['\n']

/-- A line without one carriage return at its end. -/
def dropCarriage [DecidableEq α] (carriage : α) (line : List α) : List α :=
  if line.getLast? = some carriage then line.dropLast else line

section Whole

variable [DecidableEq α] {feed carriage : α}

/-- What stands before the first feed is a line, less one carriage return at its end. -/
theorem splitLines_append_feed
    {line : List α}
    (whole : feed ∉ line)
    (rest : List α) :
    splitLines feed carriage (line ++ feed :: rest) =
      dropCarriage carriage line :: splitLines feed carriage rest := by
  induction line with
  | nil => simp [splitLines, dropCarriage]
  | cons item line step =>
      simp only [List.mem_cons, not_or] at whole
      rw [List.cons_append, splitLines, if_neg (Ne.symm whole.1), step whole.2]
      cases line with
      | nil =>
          by_cases same : item = carriage
          · simp [same, dropCarriage]
          · simp [same, dropCarriage, pushItem]
      | cons next line =>
          simp only [List.mem_cons, not_or] at whole
          have apart : next ≠ feed := Ne.symm whole.2.1
          simp only [List.cons_append, List.head?_cons, Option.some.injEq, apart, and_false,
            if_false, dropCarriage, List.getLast?_cons_cons, List.dropLast_cons_cons, pushItem]
          split <;> rfl

/-- Without a feed all is one line, unless there is nothing. -/
theorem splitLines_of_not_mem
    {line : List α}
    (whole : feed ∉ line)
    (nonempty : line ≠ []) :
    splitLines feed carriage line = [line] := by
  induction line with
  | nil => exact absurd rfl nonempty
  | cons item rest step =>
      simp only [List.mem_cons, not_or] at whole
      have noFeed : rest.head? ≠ some feed := fun first =>
        whole.2 (List.mem_of_mem_head? first)
      rw [splitLines, if_neg (Ne.symm whole.1), if_neg (fun both => noFeed both.2)]
      cases rest with
      | nil => rfl
      | cons next others => rw [step whole.2 (List.cons_ne_nil _ _), pushItem]

end Whole

/-- Lines without line feeds and without a carriage return at the end are read
back from the text that they make up. -/
theorem lines_unlines
    (written : List Text)
    (plain : ∀ line ∈ written, '\n' ∉ line ∧ line.getLast? ≠ some '\r') :
    lines (unlines written) = written := by
  induction written with
  | nil => rfl
  | cons line rest step =>
      obtain ⟨whole, bare⟩ := plain line (by simp)
      have others := step fun other otherIn => plain other (by simp [otherIn])
      simp only [unlines, List.flatMap_cons, List.append_assoc, List.singleton_append]
        at others ⊢
      rw [lines, splitLines_append_feed whole, dropCarriage, if_neg bare, ← lines, others]

end Text
end ObfuscationMap
