import Mathlib.Data.List.Perm.Basic
import ObfuscationMap.Proofs.Member.Spelling
import ObfuscationMap.Proofs.OrderedMap.Lookup
import ObfuscationMap.Proofs.TextFormat.SrgRoundTrip

/-!
# The lines of a table are its own

A written line shows its tag and its words, and the words of a table show its entries. So
tables are written alike exactly if they have the same entries. Whole lines are sorted, but
a space comes before every character of a name, so the lines of a group are in the order of
what they rename.
-/

namespace ObfuscationMap

/-! ## Sorted groups -/

/-- Lines of different items are sorted strictly. -/
theorem Text.exists_perm_strictly_sorted
    {α : Type}
    {write : α -> Text}
    (injective : Function.Injective write)
    {items : List α}
    (distinct : items.Nodup) :
    ∃ arranged : List α, arranged.Perm items ∧
      sorted (items.map write) = arranged.map write ∧
      arranged.Pairwise fun left right => Before (write left) (write right) := by
  obtain ⟨arranged, permuted, shape⟩ := exists_perm_sorted_map write items
  refine ⟨arranged, permuted, shape, ?_⟩
  have low := pairwise_sorted (items.map write)
  rw [shape, List.pairwise_map] at low
  have different : arranged.Pairwise (· ≠ ·) := permuted.nodup_iff.2 distinct
  exact low.imp₂ (fun _ _ low different => ⟨low, injective.ne different⟩) different

/-- Lines of different items show the items, up to their order. -/
theorem Text.sorted_map_eq_iff
    {α : Type}
    {write : α -> Text}
    (injective : Function.Injective write)
    {left right : List α} :
    sorted (left.map write) = sorted (right.map write) ↔ left.Perm right := by
  rw [sorted_eq_sorted_iff, List.map_perm_map_iff injective]

namespace Srg

/-! ## Lines -/

theorem line_inj
    {tag : Tag}
    {left right : List Text}
    (leftSolid : ∀ word ∈ left, word.IsSolid)
    (rightSolid : ∀ word ∈ right, word.IsSolid)
    (same : line tag left = line tag right) :
    left = right := by
  have words : tag.text :: left = tag.text :: right := by
    rw [← words_line leftSolid, same, words_line rightSolid]
  exact (List.cons.inj words).2

theorem classLine_injective : Function.Injective classLine := by
  rintro ⟨source, target⟩ ⟨otherSource, otherTarget⟩ same
  have words := line_inj (by simp [JavaType.isSolid_internalName])
    (by simp [JavaType.isSolid_internalName]) same
  simp only [List.cons.injEq, JavaType.internalName_injective.eq_iff, and_true] at words
  rw [words.1, words.2]

theorem fieldLine_injective : Function.Injective fieldLine := by
  rintro ⟨source, target⟩ ⟨otherSource, otherTarget⟩ same
  have words := line_inj (by simp [Field.isSolid_internalName])
    (by simp [Field.isSolid_internalName]) same
  simp only [List.cons.injEq, Field.internalName_injective.eq_iff, and_true] at words
  rw [words.1, words.2]

theorem methodLine_injective : Function.Injective methodLine := by
  rintro ⟨source, target⟩ ⟨otherSource, otherTarget⟩ same
  have words := line_inj (by simp [Method.isSolid_internalName, Signature.isSolid_descriptor])
    (by simp [Method.isSolid_internalName, Signature.isSolid_descriptor]) same
  simp only [List.cons.injEq, and_true] at words
  rw [Method.eq_of_internalName_of_descriptor words.1 words.2.1,
    Method.eq_of_internalName_of_descriptor words.2.2.1 words.2.2.2]

/-! ## Groups -/

/-- Whether a line starts as the lines with a tag do. -/
def starts (tag : Tag) (written : Text) : Bool :=
  written.head? == tag.text.head?

theorem starts_line (tag other : Tag) (words : List Text) :
    starts tag (line other words) = (tag == other) := by
  cases words with
  | nil => cases tag <;> cases other <;> rfl
  | cons first rest =>
      rw [starts, line, List.intercalate_cons_cons]
      cases tag <;> cases other <;> rfl

/-- Of lines with a tag, all start as it does, and none starts as another tag does. -/
theorem filter_starts_sorted
    {α : Type}
    {tag : Tag}
    {write : α -> Text}
    (tagged : ∀ item, ∃ words, write item = line tag words)
    (other : Tag)
    (items : List α) :
    (Text.sorted (items.map write)).filter (starts other) =
      if other = tag then Text.sorted (items.map write) else [] := by
  have known : ∀ written ∈ Text.sorted (items.map write),
      starts other written = (other == tag) := by
    intro written writtenIn
    obtain ⟨item, -, rfl⟩ := List.mem_map.1 ((Text.sorted_perm _).mem_iff.1 writtenIn)
    obtain ⟨words, shape⟩ := tagged item
    rw [shape, starts_line]
  split
  · next same =>
      rw [List.filter_eq_self]
      intro written writtenIn
      rw [known written writtenIn, same, beq_self_eq_true]
  · next different =>
      rw [List.filter_eq_nil_iff]
      intro written writtenIn
      rwa [known written writtenIn, beq_iff_eq]

/-- The lines of a table with a tag. -/
def group (table : MappingTable) : Tag -> List Text
  | .packages => []
  | .classes => Text.sorted (table.classes.entries.map classLine)
  | .fields => Text.sorted (table.fields.entries.map fieldLine)
  | .methods => Text.sorted (table.methods.entries.map methodLine)

theorem filter_starts_lines (table : MappingTable) (tag : Tag) :
    (lines table).filter (starts tag) = group table tag := by
  have classes := @filter_starts_sorted _ .classes classLine fun _ => ⟨_, rfl⟩
  have fields := @filter_starts_sorted _ .fields fieldLine fun _ => ⟨_, rfl⟩
  have methods := @filter_starts_sorted _ .methods methodLine fun _ => ⟨_, rfl⟩
  rw [lines, List.filter_append, List.filter_append, classes, fields, methods]
  cases tag <;> simp [group]

/-- Tables are written alike exactly if they have the same entries. -/
theorem lines_eq_iff_sameEntries (left right : MappingTable) :
    lines left = lines right ↔ left.sameEntries right = true := by
  rw [MappingTable.sameEntries_iff, OrderedMap.sameEntries_iff_perm,
    OrderedMap.sameEntries_iff_perm, OrderedMap.sameEntries_iff_perm,
    ← Text.sorted_map_eq_iff classLine_injective, ← Text.sorted_map_eq_iff fieldLine_injective,
    ← Text.sorted_map_eq_iff methodLine_injective]
  constructor
  · intro same
    -- The first letter of a tag picks its group out of the lines.
    have groups : ∀ tag, group left tag = group right tag := by
      intro tag
      rw [← filter_starts_lines, ← filter_starts_lines, same]
    exact ⟨groups .classes, groups .fields, groups .methods⟩
  · rintro ⟨classes, fields, methods⟩
    rw [lines, lines, classes, fields, methods]

/-! ## The order of lines -/

/-- The words of lines with one tag decide their order, from the left on. -/
theorem before_line_iff
    {tag : Tag}
    {left right leftNext rightNext : Text}
    {leftRest rightRest : List Text}
    (leftAbove : left.IsAboveSpace)
    (rightAbove : right.IsAboveSpace) :
    Text.Before (line tag (left :: leftNext :: leftRest))
        (line tag (right :: rightNext :: rightRest)) ↔
      Text.Before left right ∨ left = right ∧
        Text.Before ([' '].intercalate (leftNext :: leftRest))
          ([' '].intercalate (rightNext :: rightRest)) := by
  have tagAbove : tag.text.IsAboveSpace := by cases tag <;> decide
  rw [line, line, Text.before_intercalate_iff tagAbove tagAbove,
    Text.before_intercalate_iff leftAbove rightAbove]
  simp only [Text.not_before_self, true_and, false_or]

theorem before_of_before_classLine
    {left right : JavaType × JavaType}
    (before : Text.Before (classLine left) (classLine right))
    (different : left.1 ≠ right.1) :
    Text.Before left.1.internalName right.1.internalName := by
  rw [classLine, classLine, before_line_iff left.1.isAboveSpace_internalName
    right.1.isAboveSpace_internalName] at before
  rcases before with first | ⟨same, -⟩
  · exact first
  · exact absurd (JavaType.internalName_injective same) different

theorem before_of_before_fieldLine
    {left right : Field × Field}
    (before : Text.Before (fieldLine left) (fieldLine right))
    (different : left.1 ≠ right.1) :
    Text.Before left.1.internalName right.1.internalName := by
  rw [fieldLine, fieldLine, before_line_iff left.1.isAboveSpace_internalName
    right.1.isAboveSpace_internalName] at before
  rcases before with first | ⟨same, -⟩
  · exact first
  · exact absurd (Field.internalName_injective same) different

theorem before_of_before_methodLine
    {left right : Method × Method}
    (before : Text.Before (methodLine left) (methodLine right))
    (different : left.1 ≠ right.1) :
    Text.Before left.1.internalName right.1.internalName ∨
      left.1.internalName = right.1.internalName ∧
        Text.Before left.1.signature.descriptor right.1.signature.descriptor := by
  rw [methodLine, methodLine, before_line_iff left.1.isAboveSpace_internalName
    right.1.isAboveSpace_internalName, Text.before_intercalate_iff
    left.1.signature.isAboveSpace_descriptor right.1.signature.isAboveSpace_descriptor]
    at before
  rcases before with first | ⟨sameName, second | ⟨sameSignature, -⟩⟩
  · exact .inl first
  · exact .inr ⟨sameName, second⟩
  · exact absurd (Method.eq_of_internalName_of_descriptor sameName sameSignature) different

end Srg

/-- The entries of a map, arranged as their lines are, are in the order of their keys. -/
theorem OrderedMap.exists_arranged
    {κ ν : Type}
    {write : κ × ν -> Text}
    {precedes : κ × ν -> κ × ν -> Prop}
    (injective : Function.Injective write)
    (decides : ∀ left right, Text.Before (write left) (write right) -> left.1 ≠ right.1 ->
      precedes left right)
    (map : OrderedMap κ ν) :
    ∃ arranged : List (κ × ν), arranged.Perm map.entries ∧
      Text.sorted (map.entries.map write) = arranged.map write ∧
      arranged.Pairwise precedes := by
  obtain ⟨arranged, permuted, shape, increasing⟩ :=
    Text.exists_perm_strictly_sorted injective map.nodup_entries
  have distinct : (arranged.map Prod.fst).Nodup :=
    (permuted.map Prod.fst).nodup_iff.2 map.distinct
  refine ⟨arranged, permuted, shape, ?_⟩
  exact increasing.imp₂ decides (List.pairwise_map.1 distinct)

namespace TextFormat

/-- Tables have the same srg lines, as lists, exactly if they have the same entries. In each
group of lines the renamed classes and fields come in the strict order of the bytes of their
names, and the renamed methods in that of their names and then of their descriptors. -/
theorem srg_lines_canonical :
    (∀ left right : MappingTable,
      srg.lines left = srg.lines right ↔ left.sameEntries right = true) ∧
    (∀ table : MappingTable, ∃ (classes : List (JavaType × JavaType))
        (fields : List (Field × Field)) (methods : List (Method × Method)),
      classes.Perm table.classes.entries ∧
      fields.Perm table.fields.entries ∧
      methods.Perm table.methods.entries ∧
      srg.lines table = classes.map Srg.classLine ++ fields.map Srg.fieldLine ++
        methods.map Srg.methodLine ∧
      (classes.Pairwise fun left right =>
        Text.utf8 left.1.internalName < Text.utf8 right.1.internalName) ∧
      (fields.Pairwise fun left right =>
        Text.utf8 left.1.internalName < Text.utf8 right.1.internalName) ∧
      (methods.Pairwise fun left right =>
        Text.utf8 left.1.internalName < Text.utf8 right.1.internalName ∨
          left.1.internalName = right.1.internalName ∧
            Text.utf8 left.1.signature.descriptor <
              Text.utf8 right.1.signature.descriptor)) := by
  refine ⟨Srg.lines_eq_iff_sameEntries, fun table => ?_⟩
  simp only [Text.utf8_lt_iff]
  obtain ⟨classes, classesPerm, classLines, classOrder⟩ := table.classes.exists_arranged
    Srg.classLine_injective fun _ _ => Srg.before_of_before_classLine
  obtain ⟨fields, fieldsPerm, fieldLines, fieldOrder⟩ := table.fields.exists_arranged
    Srg.fieldLine_injective fun _ _ => Srg.before_of_before_fieldLine
  obtain ⟨methods, methodsPerm, methodLines, methodOrder⟩ := table.methods.exists_arranged
    Srg.methodLine_injective fun _ _ => Srg.before_of_before_methodLine
  refine ⟨classes, fields, methods, classesPerm, fieldsPerm, methodsPerm, ?_, classOrder,
    fieldOrder, methodOrder⟩
  rw [lines, Srg.lines, classLines, fieldLines, methodLines]

end TextFormat
end ObfuscationMap
