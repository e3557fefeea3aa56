import ObfuscationMap.Proofs.Text.Words
import ObfuscationMap.TextFormat.Basic

/-!
# Gathering what lines say

Every line that is read adds one record to a draft, so what each record keeps is kept
by a whole text. Written lines are solid words with spaces between them, in sorted
order; a reader that gets one item from each of them gathers the items in the order of
the lines.
-/

namespace ObfuscationMap

/-- Sorted lines are the lines of the items in some order. -/
theorem Text.exists_perm_sorted_map
    {α : Type}
    (write : α -> Text)
    (items : List α) :
    ∃ arranged : List α, arranged.Perm items ∧
      Text.sorted (items.map write) = arranged.map write := by
  refine ⟨items.mergeSort fun left right => atMost (write left) (write right),
    List.mergeSort_perm _ _, ?_⟩
  rw [sorted, List.map_mergeSort]
  exact fun _ _ _ _ => rfl

/-- A line of solid words that does not start with a number sign holds a record. -/
theorem Record.content?_intercalate
    {first : Text}
    {rest : List Text}
    (solid : ∀ word ∈ first :: rest, word.IsSolid)
    (noComment : '#' ∉ first) :
    content? ([' '].intercalate (first :: rest)) =
      some ([' '].intercalate (first :: rest)) := by
  have trimmed := (Text.isTrimmed_intercalate solid).trim_eq
  obtain ⟨c, tail, rfl⟩ := List.exists_cons_of_ne_nil (solid first List.mem_cons_self).nonempty
  have start : ∃ others, [' '].intercalate ((c :: tail) :: rest) = c :: others := by
    cases rest with
    | nil => exact ⟨tail, List.intercalate_singleton⟩
    | cons second later => exact ⟨_, List.intercalate_cons_cons⟩
  obtain ⟨others, shape⟩ := start
  rw [List.mem_cons, not_or] at noComment
  rw [content?, trimmed, shape]
  simp [Ne.symm noComment.1]

namespace TextFormat

/-- What every record that is read keeps, a text keeps. -/
theorem takeLines_invariant
    {format : TextFormat}
    {holds : Draft -> Prop}
    (kept : ∀ draft line record, holds draft -> format.readLine line = .ok record ->
      holds (draft.add record))
    {number : Nat}
    {draft result : Draft}
    {lines : List (Option Text)}
    (start : holds draft)
    (read : format.takeLines number draft lines = .ok result) :
    holds result := by
  induction lines generalizing number draft with
  | nil =>
      cases read
      exact start
  | cons line rest step =>
      cases line with
      | none => cases read
      | some line =>
          rw [takeLines, takeLine] at read
          cases outcome : format.readLine line with
          | error cause =>
              rw [outcome] at read
              cases read
          | ok record =>
              rw [outcome] at read
              exact step (kept draft line record start outcome) read

/-- A table that is read is settled from a draft that its lines were added to. -/
theorem exists_takeLines_of_readDecoded
    {format : TextFormat}
    {lines : List (Option Text)}
    {table : MappingTable}
    (read : format.readDecoded lines = .ok table) :
    ∃ draft, format.takeLines 1 .empty lines = .ok draft ∧ draft.finish = table := by
  unfold readDecoded at read
  cases run : format.takeLines 1 .empty lines with
  | error refusal =>
      rw [run] at read
      cases read
  | ok draft =>
      rw [run] at read
      cases read
      exact ⟨draft, rfl, rfl⟩

/-- Lines that each bring one item to a draft bring the items in order. -/
theorem takeLines_append
    {α : Type}
    {format : TextFormat}
    {write : α -> Text}
    {bring : Draft -> α -> Draft}
    {items : List α}
    (read : ∀ item ∈ items, ∀ draft,
      format.takeLine draft (write item) = .ok (bring draft item))
    (number : Nat)
    (draft : Draft)
    (rest : List Text) :
    format.takeLines number draft ((items.map write ++ rest).map some) =
      format.takeLines (number + items.length) (items.foldl bring draft)
        (rest.map some) := by
  induction items generalizing number draft with
  | nil => rfl
  | cons first others step =>
      have later := step fun item itemIn => read item (List.mem_cons_of_mem _ itemIn)
      rw [List.map_cons, List.cons_append, List.map_cons, takeLines,
        read first List.mem_cons_self, List.foldl_cons]
      simp only
      rw [later, List.length_cons, Nat.add_assoc, Nat.add_comm 1]

/-- Lines that each bring one item, for three kinds of items in turn, are read as the
table of a draft with all of them. -/
theorem readLines_append
    {α β γ : Type}
    {format : TextFormat}
    {writeFirst : α -> Text}
    {writeSecond : β -> Text}
    {writeThird : γ -> Text}
    {bringFirst : Draft -> α -> Draft}
    {bringSecond : Draft -> β -> Draft}
    {bringThird : Draft -> γ -> Draft}
    {firsts : List α}
    {seconds : List β}
    {thirds : List γ}
    (readFirst : ∀ item ∈ firsts, ∀ draft,
      format.takeLine draft (writeFirst item) = .ok (bringFirst draft item))
    (readSecond : ∀ item ∈ seconds, ∀ draft,
      format.takeLine draft (writeSecond item) = .ok (bringSecond draft item))
    (readThird : ∀ item ∈ thirds, ∀ draft,
      format.takeLine draft (writeThird item) = .ok (bringThird draft item)) :
    format.readLines
        (firsts.map writeFirst ++ seconds.map writeSecond ++ thirds.map writeThird) =
      .ok (thirds.foldl bringThird (seconds.foldl bringSecond
        (firsts.foldl bringFirst .empty))).finish := by
  have shape : firsts.map writeFirst ++ seconds.map writeSecond ++ thirds.map writeThird =
      firsts.map writeFirst ++
        (seconds.map writeSecond ++ (thirds.map writeThird ++ [])) := by
    rw [List.append_nil, List.append_assoc]
  rw [readLines, readDecoded, shape, takeLines_append readFirst, takeLines_append readSecond,
    takeLines_append readThird, List.map_nil, takeLines, Except.map]

/-- A written text is read as its lines, if each of them is one line of a text. -/
theorem readText_writeText_eq
    (format : TextFormat)
    (table : MappingTable)
    (plain : ∀ written ∈ format.lines table,
      '\n' ∉ written ∧ written.getLast? ≠ some '\r') :
    format.readText (format.writeText table) = format.readLines (format.lines table) := by
  rw [readText, writeText, Text.lines_unlines _ plain]

end TextFormat

namespace Draft

/-- Bring a class entry to a draft. -/
def bringClass (draft : Draft) (entry : JavaType × JavaType) : Draft :=
  { draft with
    table := { draft.table with classes := draft.table.classes.insert entry.1 entry.2 } }

theorem foldl_bringClass (entries : List (JavaType × JavaType)) (draft : Draft) :
    entries.foldl bringClass draft = { draft with
      table := { draft.table with classes := draft.table.classes.insertAll entries } } := by
  induction entries generalizing draft with
  | nil => rfl
  | cons entry rest step => exact step (draft.bringClass entry)

end Draft
end ObfuscationMap
