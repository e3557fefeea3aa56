import ObfuscationMap.Proofs.MappingTable.Writable
import ObfuscationMap.Proofs.Member.RoundTrip
import ObfuscationMap.Proofs.TextFormat.Gathering

/-!
# What is read can be written

Both formats read class entries and declaring types from internal names, so the
records of a text hold nameable types alone there. Gathering the records keeps this,
and so does settling the types of members, which follow the class entries.
-/

namespace ObfuscationMap

/-- The types of a record that are read from internal names are nameable. -/
def Record.IsWritable : Record -> Prop
  | .nothing => True
  | .packageLine _ => True
  | .classEntry source target =>
      (JavaType.reference source).IsNameable ∧ (JavaType.reference target).IsNameable
  | .fieldEntry source target => source.owner.IsNameable ∧ target.owner.IsNameable
  | .methodEntry source target => source.owner.IsNameable ∧ target.owner.IsNameable
  | .fieldName source _ => source.owner.IsNameable
  | .methodName source _ => source.owner.IsNameable

/-- The table of a draft and the members that are not settled are writable. -/
structure Draft.IsWritable (draft : Draft) : Prop where
  table : draft.table.IsWritable
  fieldNames : ∀ entry ∈ draft.fieldNames.entries, entry.1.owner.IsNameable
  methodNames : ∀ entry ∈ draft.methodNames.entries, entry.1.owner.IsNameable

/-! ## Records -/

theorem JavaType.eq_of_toClassName
    {type : JavaType}
    {name : ClassName}
    (read : type.toClassName = .ok name) :
    type = .reference name := by
  cases type <;> cases read
  rfl

/-- Two internal names are read as a class entry of the classes that they are read as. -/
theorem Record.exists_of_ofClassNames
    {source target : Text}
    {record : Record}
    (read : ofClassNames source target = .ok record) :
    ∃ sourceName targetName, record = .classEntry sourceName targetName ∧
      JavaType.ofInternalName source = .ok (.reference sourceName) ∧
      JavaType.ofInternalName target = .ok (.reference targetName) := by
  unfold ofClassNames at read
  obtain ⟨sourceType, sourceRead, read⟩ := exists_ok_of_bind_eq_ok read
  obtain ⟨targetType, targetRead, read⟩ := exists_ok_of_bind_eq_ok read
  obtain ⟨sourceName, sourceClass, read⟩ := exists_ok_of_bind_eq_ok read
  obtain ⟨targetName, targetClass, read⟩ := exists_ok_of_bind_eq_ok read
  cases read
  obtain rfl := JavaType.eq_of_toClassName sourceClass
  obtain rfl := JavaType.eq_of_toClassName targetClass
  exact ⟨sourceName, targetName, rfl, sourceRead, targetRead⟩

theorem Record.isWritable_of_ofClassNames
    {source target : Text}
    {record : Record}
    (read : ofClassNames source target = .ok record) :
    record.IsWritable := by
  obtain ⟨sourceName, targetName, rfl, sourceRead, targetRead⟩ := exists_of_ofClassNames read
  exact ⟨JavaType.isNameable_of_ofInternalName sourceRead,
    JavaType.isNameable_of_ofInternalName targetRead⟩

theorem Srg.isWritable_of_ofArguments
    {line : Text}
    {tag : Tag}
    {arguments : List Text}
    {record : Record}
    (read : ofArguments line tag arguments = .ok record) :
    record.IsWritable := by
  unfold ofArguments at read
  split at read
  · cases read
    trivial
  · exact Record.isWritable_of_ofClassNames read
  · obtain ⟨source, sourceRead, read⟩ := exists_ok_of_bind_eq_ok read
    obtain ⟨target, targetRead, read⟩ := exists_ok_of_bind_eq_ok read
    cases read
    exact ⟨Field.isNameable_of_ofInternalName sourceRead,
      Field.isNameable_of_ofInternalName targetRead⟩
  · obtain ⟨source, sourceRead, read⟩ := exists_ok_of_bind_eq_ok read
    obtain ⟨target, targetRead, read⟩ := exists_ok_of_bind_eq_ok read
    cases read
    exact ⟨Method.isNameable_of_ofParts sourceRead, Method.isNameable_of_ofParts targetRead⟩
  · cases read

theorem Srg.isWritable_of_readLine
    {line : Text}
    {record : Record}
    (read : readLine line = .ok record) :
    record.IsWritable := by
  unfold readLine at read
  split at read
  · unfold ofContent at read
    split at read
    · cases read
      trivial
    · split at read
      · exact isWritable_of_ofArguments read
      · cases read
  · cases read
    trivial

theorem Csrg.isWritable_of_ofWords
    {line : Text}
    {words : List Text}
    {record : Record}
    (read : ofWords line words = .ok record) :
    record.IsWritable := by
  unfold ofWords at read
  split at read
  · exact Record.isWritable_of_ofClassNames read
  · obtain ⟨owner, ownerRead, read⟩ := exists_ok_of_bind_eq_ok read
    obtain ⟨name, -, read⟩ := exists_ok_of_bind_eq_ok read
    obtain ⟨newName, -, read⟩ := exists_ok_of_bind_eq_ok read
    cases read
    exact JavaType.isNameable_of_ofInternalName ownerRead
  · obtain ⟨signature, -, read⟩ := exists_ok_of_bind_eq_ok read
    obtain ⟨owner, ownerRead, read⟩ := exists_ok_of_bind_eq_ok read
    obtain ⟨name, -, read⟩ := exists_ok_of_bind_eq_ok read
    obtain ⟨newName, -, read⟩ := exists_ok_of_bind_eq_ok read
    cases read
    exact JavaType.isNameable_of_ofInternalName ownerRead
  · cases read

/-- Both formats read records with nameable types alone. -/
theorem TextFormat.isWritable_of_readLine
    {format : TextFormat}
    {line : Text}
    {record : Record}
    (read : format.readLine line = .ok record) :
    record.IsWritable := by
  cases format with
  | srg => exact Srg.isWritable_of_readLine read
  | csrg =>
      change Csrg.readLine line = .ok record at read
      unfold Csrg.readLine at read
      split at read
      · exact Csrg.isWritable_of_ofWords read
      · cases read
        trivial

/-! ## Drafts -/

namespace Draft

theorem isWritable_empty : empty.IsWritable where
  table := MappingTable.isWritable_empty
  fieldNames _ entryIn := absurd entryIn List.not_mem_nil
  methodNames _ entryIn := absurd entryIn List.not_mem_nil

/-- Adding a record keeps a draft writable. -/
theorem IsWritable.add
    {draft : Draft}
    (writable : draft.IsWritable)
    {record : Record}
    (sound : record.IsWritable) :
    (draft.add record).IsWritable := by
  cases record with
  | nothing => exact writable
  | packageLine line => exact writable
  | classEntry source target =>
      have renamesClasses : (draft.table.putClass source target).RenamesClasses :=
        OrderedMap.forall_entries_insert writable.table.renamesClasses ⟨rfl, rfl⟩
      have classes := OrderedMap.forall_entries_insert writable.table.classes sound
      exact { writable with table := { writable.table with renamesClasses, classes } }
  | fieldEntry source target =>
      have fields := OrderedMap.forall_entries_insert writable.table.fields sound
      exact { writable with table := { writable.table with fields } }
  | methodEntry source target =>
      have methods := OrderedMap.forall_entries_insert writable.table.methods sound
      exact { writable with table := { writable.table with methods } }
  | fieldName source name =>
      have fieldNames : ∀ entry ∈ (draft.fieldNames.insert source name).entries,
          entry.1.owner.IsNameable :=
        OrderedMap.forall_entries_insert writable.fieldNames sound
      exact { writable with fieldNames }
  | methodName source name =>
      have methodNames : ∀ entry ∈ (draft.methodNames.insert source name).entries,
          entry.1.owner.IsNameable :=
        OrderedMap.forall_entries_insert writable.methodNames sound
      exact { writable with methodNames }

/-- The table of a writable draft is writable. -/
theorem IsWritable.finish {draft : Draft} (writable : draft.IsWritable) :
    draft.finish.IsWritable where
  renamesClasses := writable.table.renamesClasses
  classes := writable.table.classes
  fields := by
    apply OrderedMap.forall_entries_insertAll writable.table.fields
    intro entry settled
    obtain ⟨named, namedIn, rfl⟩ := List.mem_map.1 settled
    have nameable := writable.fieldNames named namedIn
    exact ⟨nameable, writable.table.isNameable_renameType nameable⟩
  methods := by
    apply OrderedMap.forall_entries_insertAll writable.table.methods
    intro entry settled
    obtain ⟨named, namedIn, rfl⟩ := List.mem_map.1 settled
    have nameable := writable.methodNames named namedIn
    exact ⟨nameable, writable.table.isNameable_renameType nameable⟩

end Draft

namespace TextFormat

/-- Every table that is read, in either format, is writable. -/
theorem isWritable_of_readDecoded
    {format : TextFormat}
    {lines : List (Option Text)}
    {table : MappingTable}
    (read : format.readDecoded lines = .ok table) :
    table.IsWritable := by
  obtain ⟨draft, run, rfl⟩ := exists_takeLines_of_readDecoded read
  have writable : draft.IsWritable :=
    takeLines_invariant
      (fun _ _ _ writable outcome => writable.add (isWritable_of_readLine outcome))
      Draft.isWritable_empty run
  exact writable.finish

end TextFormat
end ObfuscationMap
