import ObfuscationMap.Proofs.Renaming.Composition
import ObfuscationMap.Proofs.Sample
import ObfuscationMap.Proofs.TextFormat.Reading
import ObfuscationMap.Proofs.TextFormat.Records

/-!
# Compact texts as calls of a builder

A builder renames members at once, by the classes that it knows at that time, and forgets a
class that is renamed to itself. Reading a compact text puts the members off until all
classes are known, and keeps such a class. Both lead to the same names, if the builder is
given the classes of the text before its members.
-/

namespace ObfuscationMap

/-! ## Calls -/

namespace Edit

/-- Whether a change renames a class. -/
def isSetClass : Edit -> Bool
  | .setClass .. => true
  | _ => false

/-- The types that a renaming of a class is asked for with. -/
def classes? : Edit -> Option (JavaType × JavaType)
  | .setClass source target => some (source, target)
  | _ => none

end Edit

namespace Csrg

/-- The call that the words of a line stand for. The new name of a member is handed over
as it is. -/
def editOfWords? : List Text -> Option Edit
  | [source, target] => do
      let source <- (JavaType.ofInternalName source).toOption
      let target <- (JavaType.ofInternalName target).toOption
      return .setClass source target
  | [owner, name, newName] => do
      let owner <- (JavaType.ofInternalName owner).toOption
      let name <- (MemberName.ofText name).toOption
      return .setFieldName { owner, name } newName
  | [owner, name, signature, newName] => do
      let owner <- (JavaType.ofInternalName owner).toOption
      let name <- (MemberName.ofText name).toOption
      let signature <- (Signature.ofDescriptor signature).toOption
      return .setMethodName { owner, name, signature } newName
  | _ => none

/-- The call that a line stands for. -/
def edit? (line : Text) : Option Edit :=
  (Record.content? line).bind fun content => editOfWords? (Text.words content)

/-- The calls for the classes of a text, in order, and then those for its members. -/
def edits (lines : List Text) : List Edit :=
  (lines.filterMap edit?).filter Edit.isSetClass ++
    (lines.filterMap edit?).filter (!·.isSetClass)

/-- The table that a builder makes by these calls, unless one of them is refused. -/
def build (lines : List Text) : Except MappingError MappingTable :=
  (edits lines).foldlM Edit.apply .empty

end Csrg

/-- The call for a record of a compact text. -/
def Record.edit? : Record -> Option Edit
  | .classEntry source target => some (.setClass (.reference source) (.reference target))
  | .fieldName source name => some (.setFieldName source name.text)
  | .methodName source name => some (.setMethodName source name.text)
  | _ => none

/-- A record that a line of a compact text may hold. -/
structure Record.IsCall (record : Record) : Prop where
  some : record.edit?.isSome = true
  noFieldEntry : record.fieldEntry? = none
  noMethodEntry : record.methodEntry? = none

namespace Csrg

/-- Words that are read stand for the call for their record. -/
theorem editOfWords?_of_ofWords
    {line : Text}
    {words : List Text}
    {record : Record}
    (read : ofWords line words = .ok record) :
    editOfWords? words = record.edit? ∧ record.IsCall := by
  unfold ofWords at read
  split at read
  case h_1 source target =>
    obtain ⟨sourceName, targetName, rfl, sourceRead, targetRead⟩ :=
      Record.exists_of_ofClassNames read
    refine ⟨?_, rfl, rfl, rfl⟩
    rw [editOfWords?, sourceRead, targetRead]
    rfl
  case h_2 owner name newName =>
    obtain ⟨ownerType, ownerRead, read⟩ := exists_ok_of_bind_eq_ok read
    obtain ⟨fieldName, nameRead, read⟩ := exists_ok_of_bind_eq_ok read
    obtain ⟨renamed, renamedRead, read⟩ := exists_ok_of_bind_eq_ok read
    cases read
    obtain rfl := (MemberName.ofText_eq_ok_iff _ _).1 renamedRead
    refine ⟨?_, rfl, rfl, rfl⟩
    rw [editOfWords?, ownerRead, nameRead]
    rfl
  case h_3 owner name signature newName =>
    obtain ⟨signed, signatureRead, read⟩ := exists_ok_of_bind_eq_ok read
    obtain ⟨ownerType, ownerRead, read⟩ := exists_ok_of_bind_eq_ok read
    obtain ⟨methodName, nameRead, read⟩ := exists_ok_of_bind_eq_ok read
    obtain ⟨renamed, renamedRead, read⟩ := exists_ok_of_bind_eq_ok read
    cases read
    obtain rfl := (MemberName.ofText_eq_ok_iff _ _).1 renamedRead
    refine ⟨?_, rfl, rfl, rfl⟩
    rw [editOfWords?, ownerRead, nameRead, signatureRead]
    rfl
  case h_4 => cases read

/-- A line that is read stands for the call for its record, or for none. -/
theorem edit?_of_readLine
    {line : Text}
    {record : Record}
    (read : readLine line = .ok record) :
    edit? line = record.edit? ∧
      (Record.content? line = none ∧ record = .nothing ∨
        (Record.content? line).isSome = true ∧ record.IsCall) := by
  rw [edit?]
  unfold readLine at read
  split at read
  case h_1 trimmed content =>
    obtain ⟨call, isCall⟩ := editOfWords?_of_ofWords read
    rw [content, Option.bind_some]
    exact ⟨call, .inr ⟨rfl, isCall⟩⟩
  case h_2 content =>
    cases read
    rw [content]
    exact ⟨rfl, .inl ⟨rfl, rfl⟩⟩

end Csrg

/-! ## Classes -/

namespace OrderedMap

/-- One map has the entries of another, less those from a key to itself. -/
def Drops {α : Type} [DecidableEq α] (dropping keeping : OrderedMap α α) : Prop :=
  ∀ key, dropping.get? key = (keeping.get? key).filter fun value => decide (value ≠ key)

section Drops

variable {α : Type} [DecidableEq α] {dropping keeping : OrderedMap α α}

theorem drops_iff_sameEntries :
    dropping.Drops keeping ↔
      dropping.sameEntries (keeping.filter fun key value => decide (value ≠ key)) = true := by
  simp only [Drops, sameEntries_iff_get?, get?_filter]

/-- A key without an entry leads to itself, so an entry that is dropped is not missed. -/
theorem Drops.follow_eq (drops : dropping.Drops keeping) (key : α) :
    dropping.follow key = keeping.follow key := by
  rw [follow, follow, drops]
  cases keeping.get? key with
  | none => rfl
  | some value => by_cases same : value = key <;> simp [Option.filter, same]

theorem Drops.insert
    (drops : dropping.Drops keeping)
    {key value : α}
    (moves : key ≠ value) :
    (dropping.insert key value).Drops (keeping.insert key value) := by
  intro other
  rw [get?_insert, get?_insert, drops]
  split
  · next same => simp [Option.filter, ← same, Ne.symm moves]
  · rfl

theorem Drops.erase (drops : dropping.Drops keeping) (key : α) :
    (dropping.erase key).Drops (keeping.insert key key) := by
  intro other
  rw [get?_erase, get?_insert, drops]
  split
  · next same => simp [Option.filter, same]
  · rfl

end Drops

end OrderedMap

namespace Edit

/-- Renaming a class in a builder drops an entry from the class to itself. -/
theorem exists_apply_setClass
    {table : MappingTable}
    {keeping : OrderedMap JavaType JavaType}
    (drops : table.classes.Drops keeping)
    (source target : ClassName) :
    ∃ classes, apply table (.setClass (.reference source) (.reference target)) =
        .ok { table with classes } ∧
      classes.Drops (keeping.insert (.reference source) (.reference target)) := by
  rw [apply_setClass]
  by_cases same : source = target
  · subst same
    rw [if_pos rfl]
    exact ⟨_, rfl, drops.erase _⟩
  · rw [if_neg same]
    exact ⟨_, rfl, drops.insert fun equal => same (JavaType.reference.inj equal)⟩

/-- Renaming the classes of records keeps what is kept of them apart from the entries that
are dropped. -/
theorem exists_foldlM_setClass
    (records : List Record)
    {table : MappingTable}
    {keeping : OrderedMap JavaType JavaType}
    (drops : table.classes.Drops keeping) :
    ∃ classes, ((records.filterMap Record.edit?).filter isSetClass).foldlM apply table =
        .ok { table with classes } ∧
      classes.Drops (keeping.insertAll (records.filterMap Record.classEntry?)) := by
  induction records generalizing table keeping with
  | nil => exact ⟨table.classes, rfl, drops⟩
  | cons record rest step =>
      -- Only class entries are called for here, so the other records leave both maps alone.
      cases record with
      | classEntry source target =>
          obtain ⟨classes, outcome, dropped⟩ := exists_apply_setClass drops source target
          obtain ⟨final, run, kept⟩ := @step { table with classes } _ dropped
          refine ⟨final, ?_, kept⟩
          change apply table _ >>= (List.foldlM apply · _) = _
          rw [outcome]
          exact run
      | _ => exact step drops

/-! ## Members -/

theorem apply_setFieldName (table : MappingTable) (source : Field) (name : MemberName) :
    apply table (.setFieldName source name.text) =
      .ok (table.putField source (Draft.settleField table.toRenaming (source, name)).2) := by
  rw [apply, MappingTable.setFieldName, MemberName.ofText_text]
  rfl

theorem apply_setMethodName (table : MappingTable) (source : Method) (name : MemberName) :
    apply table (.setMethodName source name.text) =
      .ok (table.putMethod source (Draft.settleMethod table.toRenaming (source, name)).2) := by
  rw [apply, MappingTable.setMethodName, MemberName.ofText_text]
  rfl

/-- Renaming the members of records settles each of them by the classes of the table. -/
theorem foldlM_setMemberNames (records : List Record) (table : MappingTable) :
    ((records.filterMap Record.edit?).filter (!·.isSetClass)).foldlM apply table = .ok {
      classes := table.classes
      fields := table.fields.insertAll
        ((records.filterMap Record.fieldName?).map (Draft.settleField table.toRenaming))
      methods := table.methods.insertAll
        ((records.filterMap Record.methodName?).map
          (Draft.settleMethod table.toRenaming)) } := by
  induction records generalizing table with
  | nil => rfl
  | cons record rest step =>
      cases record with
      | fieldName source name =>
          change apply table _ >>= (List.foldlM apply · _) = _
          rw [apply_setFieldName]
          exact step (table.putField source _)
      | methodName source name =>
          change apply table _ >>= (List.foldlM apply · _) = _
          rw [apply_setMethodName]
          exact step (table.putMethod source _)
      | _ => exact step table

end Edit

/-! ## Texts -/

/-- Entries that are dropped do not show in the names of types. -/
theorem Renaming.renameType_of_drops
    {left right : MappingTable}
    (drops : left.classes.Drops right.classes) :
    left.toRenaming.renameType = right.toRenaming.renameType :=
  funext fun _ => JavaType.mapClass_congr fun name _ => drops.follow_eq (.reference name)

namespace Draft

/-- Without entries of their own, the fields of records are those with new names alone. -/
theorem fields_assemble
    {records : List Record}
    (noEntry : ∀ record ∈ records, record.fieldEntry? = none) :
    (assemble records).fields = .ofList ((records.filterMap Record.fieldName?).map
      (settleField (assemble records).toRenaming)) := by
  have none : records.filterMap Record.fieldEntry? = [] := List.filterMap_eq_nil_iff.2 noEntry
  refine Eq.trans ?_ (OrderedMap.ofList_map_entries
    (fun source name => (settleField (assemble records).toRenaming (source, name)).2) _)
  rw [assemble, foldl_add, none]
  rfl

theorem methods_assemble
    {records : List Record}
    (noEntry : ∀ record ∈ records, record.methodEntry? = none) :
    (assemble records).methods = .ofList ((records.filterMap Record.methodName?).map
      (settleMethod (assemble records).toRenaming)) := by
  have none : records.filterMap Record.methodEntry? = [] := List.filterMap_eq_nil_iff.2 noEntry
  refine Eq.trans ?_ (OrderedMap.ofList_map_entries
    (fun source name => (settleMethod (assemble records).toRenaming (source, name)).2) _)
  rw [assemble, foldl_add, none]
  rfl

/-- The calls for the records of a compact text make its members, and its classes up to
entries that are dropped. -/
theorem exists_foldlM_apply
    {records : List Record}
    (noEntry : ∀ record ∈ records, record.fieldEntry? = none ∧ record.methodEntry? = none) :
    ∃ built, ((records.filterMap Record.edit?).filter Edit.isSetClass ++
          (records.filterMap Record.edit?).filter (!·.isSetClass)).foldlM Edit.apply .empty =
        .ok built ∧
      built.classes.Drops (assemble records).classes ∧
      built.fields = (assemble records).fields ∧
      built.methods = (assemble records).methods := by
  have start : MappingTable.empty.classes.Drops ∅ := fun _ => rfl
  -- The members are set when all classes are, so both sides settle them by the same names.
  obtain ⟨classes, run, drops⟩ := Edit.exists_foldlM_setClass records start
  let renamed : MappingTable := { MappingTable.empty with classes }
  have types : renamed.toRenaming.renameType = (assemble records).toRenaming.renameType := by
    apply Renaming.renameType_of_drops
    rw [classes_assemble]
    exact drops
  have fields : settleField renamed.toRenaming =
      settleField (assemble records).toRenaming := by
    funext entry
    rw [settleField, settleField, types]
  have methods : settleMethod renamed.toRenaming =
      settleMethod (assemble records).toRenaming := by
    funext entry
    rw [settleMethod, settleMethod, types]
  rw [List.foldlM_append, run,
    fields_assemble fun record recordIn => (noEntry record recordIn).1,
    methods_assemble fun record recordIn => (noEntry record recordIn).2, classes_assemble,
    ← fields, ← methods]
  exact ⟨_, Edit.foldlM_setMemberNames records renamed, drops, rfl, rfl⟩

end Draft

namespace TextFormat

/-- The calls for lines that are read are those for their records. -/
theorem filterMap_edit?
    {lines : List Text}
    (accepted : ∀ line ∈ lines, csrg.accepts line = true) :
    lines.filterMap Csrg.edit? = (lines.filterMap csrg.record?).filterMap Record.edit? := by
  rw [List.filterMap_filterMap]
  apply List.filterMap_congr
  intro line lineIn
  obtain ⟨record, read⟩ := (accepts_iff line).1 (accepted line lineIn)
  rw [record?_of_readLine read, Option.bind_some]
  exact (Csrg.edit?_of_readLine read).1

theorem filterMap_classes? (records : List Record) :
    (records.filterMap Record.edit?).filterMap Edit.classes? =
      records.filterMap Record.classEntry? := by
  rw [List.filterMap_filterMap]
  apply List.filterMap_congr
  intro record _
  cases record <;> rfl

/-- No record of a compact text is a whole entry of a member. -/
theorem noEntry_of_mem
    {lines : List Text}
    {record : Record}
    (recordIn : record ∈ lines.filterMap csrg.record?) :
    record.fieldEntry? = none ∧ record.methodEntry? = none := by
  obtain ⟨line, -, found⟩ := List.mem_filterMap.1 recordIn
  cases outcome : csrg.readLine line with
  | error cause =>
      rw [record?_of_readLine_error outcome] at found
      cases found
  | ok other =>
      rw [record?_of_readLine outcome] at found
      cases found
      rcases (Csrg.edit?_of_readLine outcome).2 with ⟨-, rfl⟩ | ⟨-, call⟩
      · exact ⟨rfl, rfl⟩
      · exact ⟨call.noFieldEntry, call.noMethodEntry⟩

/-- A compact text that is read gives the names that a builder gives, when it is called for
each class of the text in order and then for each member in order. No call is refused.
Members are stored alike, and the classes differ in those that are renamed to themselves:
the table keeps them, with every other class of the text. -/
theorem csrg_readLines_eq_build
    {lines : List Text}
    {table : MappingTable}
    (read : csrg.readLines lines = .ok table) :
    (∀ line ∈ lines, (Csrg.edit? line).isSome = (Record.content? line).isSome) ∧
    ∃ built, Csrg.build lines = .ok built ∧
      (∀ type, built.toRenaming.renameType type = table.toRenaming.renameType type) ∧
      (∀ field, built.toRenaming.renameField field = table.toRenaming.renameField field) ∧
      (∀ method, built.toRenaming.renameMethod method = table.toRenaming.renameMethod method) ∧
      built.fields = table.fields ∧
      built.methods = table.methods ∧
      table.classes = .ofList ((lines.filterMap Csrg.edit?).filterMap Edit.classes?) ∧
      built.classes.sameEntries
        (table.classes.filter fun source target => decide (target ≠ source)) = true := by
  obtain ⟨accepted, rfl⟩ := readLines_eq_ok_iff.1 read
  refine ⟨?held, ?built⟩
  case held =>
    intro line lineIn
    obtain ⟨record, outcome⟩ := (accepts_iff line).1 (accepted line lineIn)
    obtain ⟨call, ⟨idle, rfl⟩ | ⟨held, isCall⟩⟩ := Csrg.edit?_of_readLine outcome
    · rw [call, idle]
      rfl
    · rw [call, held, isCall.some]
  case built =>
    obtain ⟨built, run, drops, fields, methods⟩ :=
      Draft.exists_foldlM_apply fun record recordIn => noEntry_of_mem recordIn
    have types := Renaming.renameType_of_drops drops
    refine ⟨built, ?run, congrFun types, ?field, ?method, fields, methods, ?kept,
      OrderedMap.drops_iff_sameEntries.1 drops⟩
    case run => rw [Csrg.build, Csrg.edits, filterMap_edit? accepted, run]
    case field =>
      intro source
      rw [Renaming.renameField, Renaming.renameField, types]
      exact congrArg (fun fields => (OrderedMap.get? fields source).getD _) fields
    case method =>
      intro source
      rw [Renaming.renameMethod, Renaming.renameMethod, types]
      exact congrArg (fun methods => (OrderedMap.get? methods source).getD _) methods
    case kept =>
      rw [Draft.classes_assemble, filterMap_edit? accepted, filterMap_classes?]

/-- A field before its class, and a class that comes back to its own name. -/
def returningLines : List Text :=
  ["a x y".toList, "a b".toList, "c d".toList, "# back".toList, "c c".toList]

/-- The table of these lines. -/
def returningTable : MappingTable where
  classes := .ofList [(.ofLetter 'a', .ofLetter 'b'), (.ofLetter 'c', .ofLetter 'c')]
  fields := .ofList [
    (⟨.ofLetter 'a', .ofLetter 'x'⟩, ⟨.ofLetter 'b', .ofLetter 'y'⟩)]

/-- The builder forgets the class that comes back. -/
theorem csrg_readLines_eq_build_returningLines :
    csrg.readLines returningLines = .ok returningTable ∧
    ∃ built, Csrg.build returningLines = .ok built ∧
      (∀ field, built.toRenaming.renameField field =
        returningTable.toRenaming.renameField field) ∧
      built.classes.sameEntries (.ofList [(.ofLetter 'a', .ofLetter 'b')]) = true := by
  have read : csrg.readLines returningLines = .ok returningTable := by rfl
  obtain ⟨-, built, run, -, fields, -, -, -, -, dropped⟩ := csrg_readLines_eq_build read
  exact ⟨read, built, run, fields, dropped⟩

end TextFormat
end ObfuscationMap
