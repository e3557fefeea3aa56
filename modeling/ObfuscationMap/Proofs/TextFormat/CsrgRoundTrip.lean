import ObfuscationMap.Proofs.MappingTable.Following
import ObfuscationMap.Proofs.Sample
import ObfuscationMap.Proofs.TextFormat.Reading

/-!
# Reading back compact texts

The number of words shows which kind of entry a compact line holds. A table is read
back from its compact text with the new names of its members and with the types that
the class entries give them. So a table comes back whole exactly if its members follow
its classes, as they do in every table that is read from a compact text.
-/

namespace ObfuscationMap

theorem ClassName.numberSign_not_mem_internalName (name : ClassName) :
    '#' ∉ name.internalName :=
  name.not_mem_internalName (by decide) (by decide)

theorem JavaType.numberSign_not_mem_internalName (type : JavaType) :
    '#' ∉ type.internalName := by
  induction type with
  | reference name => exact name.numberSign_not_mem_internalName
  | primitive kind => cases kind <;> decide
  | array element step => simp [internalName, step]

namespace Csrg

/-! ## Lines -/

/-- A written line is read by its words. -/
theorem readLine_line
    {first : Text}
    {rest : List Text}
    (solid : ∀ word ∈ first :: rest, word.IsSolid)
    (noComment : '#' ∉ first) :
    readLine (line (first :: rest)) = ofWords (line (first :: rest)) (first :: rest) := by
  have split : Text.words (line (first :: rest)) = first :: rest :=
    Text.words_intercalate solid
  have content : Record.content? (line (first :: rest)) = some (line (first :: rest)) :=
    Record.content?_intercalate solid noComment
  rw [readLine, content]
  simp only [split]

theorem readLine_classLine
    {source target : ClassName}
    (sourceNameable : (JavaType.reference source).IsNameable)
    (targetNameable : (JavaType.reference target).IsNameable) :
    readLine (classLine (.reference source, .reference target)) =
      .ok (.classEntry source target) := by
  rw [classLine, readLine_line]
  · simp only [ofWords, Record.ofClassNames,
      JavaType.ofInternalName_internalName sourceNameable,
      JavaType.ofInternalName_internalName targetNameable]
    rfl
  · simp [JavaType.isSolid_internalName]
  · exact JavaType.numberSign_not_mem_internalName _

theorem readLine_fieldLine
    {entry : Field × Field}
    (nameable : entry.1.owner.IsNameable) :
    readLine (fieldLine entry) = .ok (.fieldName entry.1 entry.2.name) := by
  rw [fieldLine, readLine_line]
  · simp only [ofWords, JavaType.ofInternalName_internalName nameable, MemberName.ofText_text]
    rfl
  · simp [JavaType.isSolid_internalName, MemberName.isSolid_text]
  · exact entry.1.owner.numberSign_not_mem_internalName

theorem readLine_methodLine
    {entry : Method × Method}
    (nameable : entry.1.owner.IsNameable) :
    readLine (methodLine entry) = .ok (.methodName entry.1 entry.2.name) := by
  rw [methodLine, readLine_line]
  · simp only [ofWords, Signature.ofDescriptor_descriptor,
      JavaType.ofInternalName_internalName nameable, MemberName.ofText_text]
    rfl
  · simp [JavaType.isSolid_internalName, MemberName.isSolid_text,
      Signature.isSolid_descriptor]
  · exact entry.1.owner.numberSign_not_mem_internalName

/-- Every written line is one line of a text. -/
theorem plain_lines (table : MappingTable) :
    ∀ written ∈ lines table, '\n' ∉ written ∧ written.getLast? ≠ some '\r' := by
  intro written writtenIn
  simp only [lines, List.mem_append, (Text.sorted_perm _).mem_iff, List.mem_map] at writtenIn
  rcases writtenIn with (⟨entry, -, rfl⟩ | ⟨entry, -, rfl⟩) | ⟨entry, -, rfl⟩
  · exact Text.plain_intercalate (by simp [JavaType.isSolid_internalName])
  · exact Text.plain_intercalate
      (by simp [JavaType.isSolid_internalName, MemberName.isSolid_text])
  · exact Text.plain_intercalate
      (by simp [JavaType.isSolid_internalName, MemberName.isSolid_text,
        Signature.isSolid_descriptor])

end Csrg

namespace Draft

/-- Bring the new name of a field to a draft. -/
def bringFieldName (draft : Draft) (entry : Field × Field) : Draft :=
  { draft with fieldNames := draft.fieldNames.insert entry.1 entry.2.name }

/-- Bring the new name of a method to a draft. -/
def bringMethodName (draft : Draft) (entry : Method × Method) : Draft :=
  { draft with methodNames := draft.methodNames.insert entry.1 entry.2.name }

theorem foldl_bringFieldName (entries : List (Field × Field)) (draft : Draft) :
    entries.foldl bringFieldName draft = { draft with
      fieldNames := draft.fieldNames.insertAll
        (entries.map fun entry => (entry.1, entry.2.name)) } := by
  induction entries generalizing draft with
  | nil => rfl
  | cons entry rest step => exact step (draft.bringFieldName entry)

theorem foldl_bringMethodName (entries : List (Method × Method)) (draft : Draft) :
    entries.foldl bringMethodName draft = { draft with
      methodNames := draft.methodNames.insertAll
        (entries.map fun entry => (entry.1, entry.2.name)) } := by
  induction entries generalizing draft with
  | nil => rfl
  | cons entry rest step => exact step (draft.bringMethodName entry)

/-- A draft of class entries and new names is the table of the entries whose members
follow the classes. -/
theorem finish_foldl_bringNames
    (classes : List (JavaType × JavaType))
    (fields : List (Field × Field))
    (methods : List (Method × Method)) :
    (methods.foldl bringMethodName (fields.foldl bringFieldName
      (classes.foldl bringClass empty))).finish =
        MappingTable.following {
          classes := .ofList classes
          fields := .ofList fields
          methods := .ofList methods } := by
  rw [foldl_bringClass, foldl_bringFieldName, foldl_bringMethodName, finish,
    MappingTable.following]
  let answers : Renaming := MappingTable.toRenaming { classes := .ofList classes }
  congr 1
  · exact OrderedMap.ofList_complete Field.name
      (fun source name => { source.mapTypes answers.renameType with name := name }) fields
  · exact OrderedMap.ofList_complete Method.name
      (fun source name => { source.mapTypes answers.renameType with name := name }) methods

/-- A draft of compact lines holds no member whose types are settled. -/
structure IsUnsettled (draft : Draft) : Prop where
  fields : draft.table.fields = ∅
  methods : draft.table.methods = ∅

/-- Members that are settled at the end follow the classes. -/
theorem IsUnsettled.followsClasses
    {draft : Draft}
    (unsettled : draft.IsUnsettled) :
    draft.finish.FollowsClasses where
  fields entry entryIn := by
    rw [finish, unsettled.fields] at entryIn
    obtain ⟨named, -, rfl⟩ :=
      List.mem_map.1 (OrderedMap.mem_of_mem_entries_ofList entryIn)
    rfl
  methods entry entryIn := by
    rw [finish, unsettled.methods] at entryIn
    obtain ⟨named, -, rfl⟩ :=
      List.mem_map.1 (OrderedMap.mem_of_mem_entries_ofList entryIn)
    exact ⟨rfl, rfl⟩

end Draft

namespace Csrg

/-- The records of compact lines settle no member. -/
theorem isUnsettled_add
    {draft : Draft}
    (unsettled : draft.IsUnsettled)
    {line : Text}
    {record : Record}
    (read : readLine line = .ok record) :
    (draft.add record).IsUnsettled := by
  unfold readLine at read
  split at read
  · unfold ofWords at read
    split at read
    · obtain ⟨source, target, rfl, -⟩ := Record.exists_of_ofClassNames read
      exact ⟨unsettled.fields, unsettled.methods⟩
    · obtain ⟨owner, -, read⟩ := exists_ok_of_bind_eq_ok read
      obtain ⟨name, -, read⟩ := exists_ok_of_bind_eq_ok read
      obtain ⟨newName, -, read⟩ := exists_ok_of_bind_eq_ok read
      cases read
      exact ⟨unsettled.fields, unsettled.methods⟩
    · obtain ⟨signature, -, read⟩ := exists_ok_of_bind_eq_ok read
      obtain ⟨owner, -, read⟩ := exists_ok_of_bind_eq_ok read
      obtain ⟨name, -, read⟩ := exists_ok_of_bind_eq_ok read
      obtain ⟨newName, -, read⟩ := exists_ok_of_bind_eq_ok read
      cases read
      exact ⟨unsettled.fields, unsettled.methods⟩
    · cases read
  · cases read
    exact unsettled

end Csrg

namespace TextFormat

section CompactlyWritable

variable {table : MappingTable}

theorem csrg_takeLine_classLine
    (writable : table.IsCompactlyWritable)
    {entry : JavaType × JavaType}
    (stored : entry ∈ table.classes.entries)
    (draft : Draft) :
    csrg.takeLine draft (Csrg.classLine entry) = .ok (draft.bringClass entry) := by
  obtain ⟨source, target⟩ := entry
  obtain ⟨sourceClass, targetClass⟩ := writable.renamesClasses _ stored
  obtain ⟨sourceName, rfl⟩ := (JavaType.isClass_iff source).1 sourceClass
  obtain ⟨targetName, rfl⟩ := (JavaType.isClass_iff target).1 targetClass
  obtain ⟨sourceNameable, targetNameable⟩ := writable.classes _ stored
  rw [takeLine, readLine, Csrg.readLine_classLine sourceNameable targetNameable]
  rfl

theorem csrg_takeLine_fieldLine
    (writable : table.IsCompactlyWritable)
    {entry : Field × Field}
    (stored : entry ∈ table.fields.entries)
    (draft : Draft) :
    csrg.takeLine draft (Csrg.fieldLine entry) = .ok (draft.bringFieldName entry) := by
  have nameable := writable.fields entry.1 (List.mem_map_of_mem stored)
  rw [takeLine, readLine, Csrg.readLine_fieldLine nameable]
  rfl

theorem csrg_takeLine_methodLine
    (writable : table.IsCompactlyWritable)
    {entry : Method × Method}
    (stored : entry ∈ table.methods.entries)
    (draft : Draft) :
    csrg.takeLine draft (Csrg.methodLine entry) = .ok (draft.bringMethodName entry) := by
  have nameable := writable.methods entry.1 (List.mem_map_of_mem stored)
  rw [takeLine, readLine, Csrg.readLine_methodLine nameable]
  rfl

/-- A compact text gives the table back with members that follow the classes, up to the
order of entries. -/
theorem exists_csrg_readText_writeText
    (writable : table.IsCompactlyWritable) :
    ∃ result, csrg.readText (csrg.writeText table) = .ok result ∧
      result.sameEntries table.following = true := by
  obtain ⟨classes, classesPerm, classLines⟩ :=
    Text.exists_perm_sorted_map Csrg.classLine table.classes.entries
  obtain ⟨fields, fieldsPerm, fieldLines⟩ :=
    Text.exists_perm_sorted_map Csrg.fieldLine table.fields.entries
  obtain ⟨methods, methodsPerm, methodLines⟩ :=
    Text.exists_perm_sorted_map Csrg.methodLine table.methods.entries
  have classRead := fun entry (entryIn : entry ∈ classes) =>
    csrg_takeLine_classLine writable (classesPerm.mem_iff.1 entryIn)
  have fieldRead := fun entry (entryIn : entry ∈ fields) =>
    csrg_takeLine_fieldLine writable (fieldsPerm.mem_iff.1 entryIn)
  have methodRead := fun entry (entryIn : entry ∈ methods) =>
    csrg_takeLine_methodLine writable (methodsPerm.mem_iff.1 entryIn)
  have same := MappingTable.sameEntries_ofList classesPerm fieldsPerm methodsPerm
  refine ⟨_, ?read, MappingTable.sameEntries_following same⟩
  rw [readText_writeText_eq csrg table (Csrg.plain_lines table), lines, Csrg.lines,
    classLines, fieldLines, methodLines,
    readLines_append classRead fieldRead methodRead, Draft.finish_foldl_bringNames]

end CompactlyWritable

/-- The members of every table that is read from a compact text follow its classes. -/
theorem followsClasses_of_csrg_readDecoded
    {lines : List (Option Text)}
    {table : MappingTable}
    (read : csrg.readDecoded lines = .ok table) :
    table.FollowsClasses := by
  obtain ⟨draft, run, rfl⟩ := exists_takeLines_of_readDecoded read
  have kept : ∀ (draft : Draft) line record, draft.IsUnsettled ->
      csrg.readLine line = .ok record -> (draft.add record).IsUnsettled :=
    fun _ _ _ unsettled outcome => Csrg.isUnsettled_add unsettled outcome
  exact (takeLines_invariant kept ⟨rfl, rfl⟩ run).followsClasses

/-- A compact text gives back the class entries, the members with their new names, and
for the types of renamed members what the class entries make of the old ones. It gives
the whole table back exactly if the members follow the classes, as they do in every
table that is read from a compact text. -/
theorem csrg_readText_writeText :
    (∀ table : MappingTable, table.IsCompactlyWritable ->
      ∃ result, csrg.readText (csrg.writeText table) = .ok result ∧
        result.sameEntries table.following = true ∧
        (result.sameEntries table = true ↔ table.FollowsClasses)) ∧
    (∀ (lines : List (Option Text)) (table : MappingTable),
      csrg.readDecoded lines = .ok table ->
      table.IsCompactlyWritable ∧ table.FollowsClasses ∧
        ∃ result, csrg.readText (csrg.writeText table) = .ok result ∧
          result.sameEntries table = true) := by
  refine ⟨?written, ?parsed⟩
  case written =>
    intro table writable
    obtain ⟨result, read, same⟩ := exists_csrg_readText_writeText writable
    refine ⟨result, read, same, ?_⟩
    rw [← MappingTable.sameEntries_following_self_iff]
    constructor
    · exact MappingTable.sameEntries_trans (MappingTable.sameEntries_symm same)
    · exact MappingTable.sameEntries_trans same
  case parsed =>
    intro lines table read
    have writable := (isWritable_of_readDecoded read).isCompactlyWritable
    have follows := followsClasses_of_csrg_readDecoded read
    obtain ⟨result, again, same⟩ := exists_csrg_readText_writeText writable
    have still := (MappingTable.sameEntries_following_self_iff table).2 follows
    exact ⟨writable, follows, result, again, MappingTable.sameEntries_trans same still⟩

/-- A table with a field that leaves its class and a method that follows it. -/
def strayingTable : MappingTable where
  classes := .ofList [(.ofLetter 'a', .ofLetter 'b')]
  fields := .ofList [
    (⟨.array (.ofLetter 'a'), .ofLetter 'x'⟩, ⟨.named ['I', 'n', 't'], .ofLetter 'y'⟩)]
  methods := .ofList [
    (.onto (.ofLetter 'a') (.ofLetter 'f') (.array (.ofLetter 'a')),
      .onto (.ofLetter 'b') (.ofLetter 'g') (.array (.ofLetter 'b')))]

/-- A table with a field that follows its class. -/
def compactTable : MappingTable where
  classes := .ofList [(.ofLetter 'a', .ofLetter 'b')]
  fields := .ofList [
    (⟨.ofLetter 'a', .ofLetter 'x'⟩, ⟨.ofLetter 'b', .ofLetter 'y'⟩)]

/-- The straying field comes back with its class; a table from a compact text comes back
whole. -/
theorem csrg_readText_writeText_strayingTable :
    strayingTable.IsCompactlyWritable ∧
    (∃ result, csrg.readText (csrg.writeText strayingTable) = .ok result ∧
      result.sameEntries strayingTable.following = true ∧
      result.sameEntries strayingTable = false) ∧
    csrg.readDecoded [some "a x y".toList, some "a b".toList] = .ok compactTable ∧
    ∃ result, csrg.readText (csrg.writeText compactTable) = .ok result ∧
      result.sameEntries compactTable = true := by
  have writable : strayingTable.IsCompactlyWritable :=
    ⟨by decide, by decide, by decide, by decide⟩
  have parsed : csrg.readDecoded [some "a x y".toList, some "a b".toList] =
      .ok compactTable := by rfl
  obtain ⟨result, read, same, whole⟩ := csrg_readText_writeText.1 strayingTable writable
  refine ⟨writable, ⟨result, read, same, ?_⟩, parsed,
    (csrg_readText_writeText.2 _ compactTable parsed).2.2⟩
  rw [← Bool.not_eq_true, whole]
  intro follows
  exact absurd (follows.fields _ List.mem_cons_self) (by decide)

end TextFormat
end ObfuscationMap
