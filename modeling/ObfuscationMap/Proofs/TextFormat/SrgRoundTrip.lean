import ObfuscationMap.Proofs.Sample
import ObfuscationMap.Proofs.TextFormat.Reading

/-!
# Reading back srg texts

A written line is its words with spaces between them, so it is read as these words.
A writable table is read back with the entries of each kind in the order of their
lines. Since every table that is read is writable, no other table is read back.
-/

namespace ObfuscationMap
namespace Srg

/-! ## Lines -/

theorem isSolid_tagText (tag : Tag) : tag.text.IsSolid := by
  cases tag <;> decide

theorem isSolid_of_mem_cons_tagText
    {tag : Tag}
    {words : List Text}
    (solid : ∀ word ∈ words, word.IsSolid) :
    ∀ word ∈ tag.text :: words, word.IsSolid := by
  intro word wordIn
  rcases List.mem_cons.1 wordIn with rfl | later
  · exact isSolid_tagText tag
  · exact solid word later

theorem content?_line
    {tag : Tag}
    {words : List Text}
    (solid : ∀ word ∈ words, word.IsSolid) :
    Record.content? (line tag words) = some (line tag words) :=
  Record.content?_intercalate (isSolid_of_mem_cons_tagText solid) (by cases tag <;> decide)

/-- A line shows its tag and its words. -/
theorem words_line
    {tag : Tag}
    {words : List Text}
    (solid : ∀ word ∈ words, word.IsSolid) :
    Text.words (line tag words) = tag.text :: words :=
  Text.words_intercalate (isSolid_of_mem_cons_tagText solid)

/-- A written line is read by its tag and its words. -/
theorem readLine_line
    {tag : Tag}
    {words : List Text}
    (solid : ∀ word ∈ words, word.IsSolid) :
    readLine (line tag words) = ofArguments (line tag words) tag words := by
  rw [readLine, content?_line solid]
  simp only [ofContent, words_line solid, Tag.ofText?_text]

theorem readLine_classLine
    {source target : ClassName}
    (sourceNameable : (JavaType.reference source).IsNameable)
    (targetNameable : (JavaType.reference target).IsNameable) :
    readLine (classLine (.reference source, .reference target)) =
      .ok (.classEntry source target) := by
  rw [classLine, readLine_line]
  · simp only [ofArguments, Record.ofClassNames,
      JavaType.ofInternalName_internalName sourceNameable,
      JavaType.ofInternalName_internalName targetNameable]
    rfl
  · simp [JavaType.isSolid_internalName]

theorem readLine_fieldLine
    {entry : Field × Field}
    (nameable : entry.1.owner.IsNameable ∧ entry.2.owner.IsNameable) :
    readLine (fieldLine entry) = .ok (.fieldEntry entry.1 entry.2) := by
  rw [fieldLine, readLine_line]
  · simp only [ofArguments, Field.ofInternalName_internalName nameable.1,
      Field.ofInternalName_internalName nameable.2]
    rfl
  · simp [Field.isSolid_internalName]

theorem readLine_methodLine
    {entry : Method × Method}
    (nameable : entry.1.owner.IsNameable ∧ entry.2.owner.IsNameable) :
    readLine (methodLine entry) = .ok (.methodEntry entry.1 entry.2) := by
  rw [methodLine, readLine_line]
  · simp only [ofArguments, Method.ofParts_internalName nameable.1,
      Method.ofParts_internalName nameable.2]
    rfl
  · simp [Method.isSolid_internalName, Signature.isSolid_descriptor]

/-- Every written line is one line of a text. -/
theorem plain_lines (table : MappingTable) :
    ∀ written ∈ lines table, '\n' ∉ written ∧ written.getLast? ≠ some '\r' := by
  have plain : ∀ tag : Tag, ∀ words : List Text, (∀ word ∈ words, word.IsSolid) ->
      '\n' ∉ line tag words ∧ (line tag words).getLast? ≠ some '\r' :=
    fun tag words solid => Text.plain_intercalate (isSolid_of_mem_cons_tagText solid)
  intro written writtenIn
  simp only [lines, List.mem_append, (Text.sorted_perm _).mem_iff, List.mem_map] at writtenIn
  rcases writtenIn with (⟨entry, -, rfl⟩ | ⟨entry, -, rfl⟩) | ⟨entry, -, rfl⟩
  · exact plain .classes _ (by simp [JavaType.isSolid_internalName])
  · exact plain .fields _ (by simp [Field.isSolid_internalName])
  · exact plain .methods _
      (by simp [Method.isSolid_internalName, Signature.isSolid_descriptor])

end Srg

namespace Draft

/-- Bring a field entry to a draft. -/
def bringField (draft : Draft) (entry : Field × Field) : Draft :=
  { draft with table := draft.table.putField entry.1 entry.2 }

/-- Bring a method entry to a draft. -/
def bringMethod (draft : Draft) (entry : Method × Method) : Draft :=
  { draft with table := draft.table.putMethod entry.1 entry.2 }

theorem foldl_bringField (entries : List (Field × Field)) (draft : Draft) :
    entries.foldl bringField draft = { draft with
      table := { draft.table with fields := draft.table.fields.insertAll entries } } := by
  induction entries generalizing draft with
  | nil => rfl
  | cons entry rest step => exact step (draft.bringField entry)

theorem foldl_bringMethod (entries : List (Method × Method)) (draft : Draft) :
    entries.foldl bringMethod draft = { draft with
      table := { draft.table with methods := draft.table.methods.insertAll entries } } := by
  induction entries generalizing draft with
  | nil => rfl
  | cons entry rest step => exact step (draft.bringMethod entry)

/-- A draft of entries alone is the table of these entries. -/
theorem finish_foldl_bring
    (classes : List (JavaType × JavaType))
    (fields : List (Field × Field))
    (methods : List (Method × Method)) :
    (methods.foldl bringMethod (fields.foldl bringField
      (classes.foldl bringClass empty))).finish =
        { classes := .ofList classes, fields := .ofList fields, methods := .ofList methods } := by
  rw [foldl_bringClass, foldl_bringField, foldl_bringMethod]
  rfl

end Draft

namespace TextFormat

/-! ## Whole tables -/

section Writable

variable {table : MappingTable}

theorem takeLine_classLine
    (writable : table.IsWritable)
    {entry : JavaType × JavaType}
    (stored : entry ∈ table.classes.entries)
    (draft : Draft) :
    srg.takeLine draft (Srg.classLine entry) = .ok (draft.bringClass entry) := by
  obtain ⟨source, target⟩ := entry
  obtain ⟨sourceClass, targetClass⟩ := writable.renamesClasses _ stored
  obtain ⟨sourceName, rfl⟩ := (JavaType.isClass_iff source).1 sourceClass
  obtain ⟨targetName, rfl⟩ := (JavaType.isClass_iff target).1 targetClass
  obtain ⟨sourceNameable, targetNameable⟩ := writable.classes _ stored
  rw [takeLine, readLine, Srg.readLine_classLine sourceNameable targetNameable]
  rfl

theorem takeLine_fieldLine
    (writable : table.IsWritable)
    {entry : Field × Field}
    (stored : entry ∈ table.fields.entries)
    (draft : Draft) :
    srg.takeLine draft (Srg.fieldLine entry) = .ok (draft.bringField entry) := by
  rw [takeLine, readLine, Srg.readLine_fieldLine (writable.fields entry stored)]
  rfl

theorem takeLine_methodLine
    (writable : table.IsWritable)
    {entry : Method × Method}
    (stored : entry ∈ table.methods.entries)
    (draft : Draft) :
    srg.takeLine draft (Srg.methodLine entry) = .ok (draft.bringMethod entry) := by
  rw [takeLine, readLine, Srg.readLine_methodLine (writable.methods entry stored)]
  rfl

/-- A writable table is read back from its srg lines, up to the order of entries. -/
theorem exists_readLines_lines
    (writable : table.IsWritable) :
    ∃ result, srg.readLines (srg.lines table) = .ok result ∧
      result.sameEntries table = true := by
  obtain ⟨classes, classesPerm, classLines⟩ :=
    Text.exists_perm_sorted_map Srg.classLine table.classes.entries
  obtain ⟨fields, fieldsPerm, fieldLines⟩ :=
    Text.exists_perm_sorted_map Srg.fieldLine table.fields.entries
  obtain ⟨methods, methodsPerm, methodLines⟩ :=
    Text.exists_perm_sorted_map Srg.methodLine table.methods.entries
  have classRead := fun entry (entryIn : entry ∈ classes) =>
    takeLine_classLine writable (classesPerm.mem_iff.1 entryIn)
  have fieldRead := fun entry (entryIn : entry ∈ fields) =>
    takeLine_fieldLine writable (fieldsPerm.mem_iff.1 entryIn)
  have methodRead := fun entry (entryIn : entry ∈ methods) =>
    takeLine_methodLine writable (methodsPerm.mem_iff.1 entryIn)
  refine ⟨_, ?read, MappingTable.sameEntries_ofList classesPerm fieldsPerm methodsPerm⟩
  rw [lines, Srg.lines, classLines, fieldLines, methodLines,
    readLines_append classRead fieldRead methodRead, Draft.finish_foldl_bring]

/-- A writable table is read back from its srg text, up to the order of entries. -/
theorem exists_readText_writeText
    (writable : table.IsWritable) :
    ∃ result, srg.readText (srg.writeText table) = .ok result ∧
      result.sameEntries table = true := by
  rw [readText_writeText_eq srg table (Srg.plain_lines table)]
  exact exists_readLines_lines writable

end Writable

/-- Exactly the writable tables are read back from their srg texts, and every table
that is read, in either format, is one of them. -/
theorem srg_readText_writeText_iff :
    (∀ table : MappingTable,
      (∃ result, srg.readText (srg.writeText table) = .ok result ∧
        result.sameEntries table = true) ↔
      table.IsWritable) ∧
    (∀ (format : TextFormat) (lines : List (Option Text)) (table : MappingTable),
      format.readDecoded lines = .ok table ->
      table.IsWritable ∧
        ∃ result, srg.readText (srg.writeText table) = .ok result ∧
          result.sameEntries table = true) := by
  refine ⟨fun table => ⟨?writable, exists_readText_writeText⟩, ?parsed⟩
  case writable =>
    rintro ⟨result, read, same⟩
    exact (isWritable_of_readDecoded read).of_sameEntries same
  case parsed =>
    intro format lines table read
    have writable := isWritable_of_readDecoded read
    exact ⟨writable, exists_readText_writeText writable⟩

/-- A table with a class that is spelled like a primitive type. -/
def shoutedTable : MappingTable where
  classes := .ofList [(.ofLetter 'a', .named ['I', 'n', 't'])]

/-- A table with a method that follows a class entry. -/
def followingTable : MappingTable where
  classes := .ofList [(.ofLetter 'a', .ofLetter 'b')]
  methods := .ofList [
    (.onto (.ofLetter 'a') (.ofLetter 'f') (.array (.ofLetter 'a')),
      .onto (.ofLetter 'b') (.ofLetter 'g') (.array (.ofLetter 'b')))]

/-- A table from a compact text goes through srg; the class `Int` does not. -/
theorem srg_readText_writeText_iff_followingTable :
    csrg.readDecoded [some "a f ([La;)V g".toList, some "a b".toList] =
      .ok followingTable ∧
    (∃ result, srg.readText (srg.writeText followingTable) = .ok result ∧
      result.sameEntries followingTable = true) ∧
    ¬∃ result, srg.readText (srg.writeText shoutedTable) = .ok result ∧
      result.sameEntries shoutedTable = true := by
  have read : csrg.readDecoded [some "a f ([La;)V g".toList, some "a b".toList] =
      .ok followingTable := by rfl
  refine ⟨read, (srg_readText_writeText_iff.2 csrg _ followingTable read).2, ?_⟩
  rw [srg_readText_writeText_iff.1]
  intro writable
  have nameable := (writable.classes _ List.mem_cons_self).2
  exact absurd (nameable ⟨['I', 'n', 't'], by decide⟩ rfl .int) (by decide)

end TextFormat
end ObfuscationMap
