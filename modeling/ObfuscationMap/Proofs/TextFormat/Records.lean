import ObfuscationMap.Proofs.OrderedMap.Selection
import ObfuscationMap.Proofs.TextFormat.Gathering

/-!
# Texts as lists of records

Every line is read on its own, and every record goes into one of the maps of a draft.
So a list of lines is refused for its first line that is not read, whatever the lines
before it say, and otherwise its table is put together from the records of each kind.
-/

namespace ObfuscationMap
namespace Record

/-- The class entry that a record holds. -/
def classEntry? : Record -> Option (JavaType × JavaType)
  | .classEntry source target => some (.reference source, .reference target)
  | _ => none

/-- The field entry that a record holds. -/
def fieldEntry? : Record -> Option (Field × Field)
  | .fieldEntry source target => some (source, target)
  | _ => none

/-- The method entry that a record holds. -/
def methodEntry? : Record -> Option (Method × Method)
  | .methodEntry source target => some (source, target)
  | _ => none

/-- The field that a record gives a new name alone. -/
def fieldName? : Record -> Option (Field × MemberName)
  | .fieldName source name => some (source, name)
  | _ => none

/-- The method that a record gives a new name alone. -/
def methodName? : Record -> Option (Method × MemberName)
  | .methodName source name => some (source, name)
  | _ => none

end Record

namespace Draft

/-- Each map of a draft takes the records of its own kind. -/
theorem foldl_add (records : List Record) (draft : Draft) :
    records.foldl add draft = {
      table := {
        classes := draft.table.classes.insertAll (records.filterMap Record.classEntry?)
        fields := draft.table.fields.insertAll (records.filterMap Record.fieldEntry?)
        methods := draft.table.methods.insertAll (records.filterMap Record.methodEntry?) }
      fieldNames := draft.fieldNames.insertAll (records.filterMap Record.fieldName?)
      methodNames := draft.methodNames.insertAll (records.filterMap Record.methodName?) } := by
  induction records generalizing draft with
  | nil => rfl
  | cons record rest step =>
      rw [List.foldl_cons, step]
      cases record <;> rfl

theorem classes_assemble (records : List Record) :
    (assemble records).classes = .ofList (records.filterMap Record.classEntry?) := by
  rw [assemble, foldl_add]
  rfl

/-- A field is renamed by its new name alone before it is by an entry of its own. -/
theorem get?_fields_assemble (records : List Record) (source : Field) :
    (assemble records).fields.get? source =
      (((OrderedMap.ofList (records.filterMap Record.fieldName?)).get? source).map
        fun name => (settleField (.ofClasses (assemble records).classes.get?)
          (source, name)).2).or
        ((OrderedMap.ofList (records.filterMap Record.fieldEntry?)).get? source) := by
  rw [classes_assemble, assemble, foldl_add]
  exact OrderedMap.get?_insertAll_map_entries _ _
    (fun source name => (settleField _ (source, name)).2) source

/-- A method is renamed by its new name alone before it is by an entry of its own. -/
theorem get?_methods_assemble (records : List Record) (source : Method) :
    (assemble records).methods.get? source =
      (((OrderedMap.ofList (records.filterMap Record.methodName?)).get? source).map
        fun name => (settleMethod (.ofClasses (assemble records).classes.get?)
          (source, name)).2).or
        ((OrderedMap.ofList (records.filterMap Record.methodEntry?)).get? source) := by
  rw [classes_assemble, assemble, foldl_add]
  exact OrderedMap.get?_insertAll_map_entries _ _
    (fun source name => (settleMethod _ (source, name)).2) source

end Draft

namespace TextFormat

variable {format : TextFormat}

/-- Whether a line is read. -/
def accepts (format : TextFormat) (line : Text) : Bool :=
  (format.readLine line).isOk

/-- The record of a line, if the line is read. -/
def record? (format : TextFormat) (line : Text) : Option Record :=
  (format.readLine line).toOption

theorem accepts_iff (line : Text) :
    format.accepts line = true ↔ ∃ record, format.readLine line = .ok record := by
  rw [accepts]
  cases format.readLine line <;> simp [Except.isOk, Except.toBool]

theorem accepts_of_readLine
    {line : Text}
    {record : Record}
    (read : format.readLine line = .ok record) :
    format.accepts line = true :=
  (accepts_iff line).2 ⟨record, read⟩

theorem record?_of_readLine
    {line : Text}
    {record : Record}
    (read : format.readLine line = .ok record) :
    format.record? line = some record := by
  rw [record?, read]
  rfl

theorem record?_of_readLine_error
    {line : Text}
    {cause : MappingError}
    (refused : format.readLine line = .error cause) :
    format.record? line = none := by
  rw [record?, refused]
  rfl

/-- Lines are all read into a draft exactly if each of them is read, and the draft takes
their records. -/
theorem takeLines_eq_ok_iff
    {number : Nat}
    {draft result : Draft}
    {lines : List Text} :
    format.takeLines number draft (lines.map some) = .ok result ↔
      (∀ line ∈ lines, format.accepts line = true) ∧
        (lines.filterMap format.record?).foldl Draft.add draft = result := by
  induction lines generalizing number draft with
  | nil => simp [takeLines]
  | cons line rest step =>
      rw [List.map_cons, takeLines, takeLine, List.forall_mem_cons]
      cases outcome : format.readLine line with
      | error cause => simp [accepts, outcome, Except.map, Except.isOk, Except.toBool]
      | ok record =>
          simp only [Except.map, step, accepts_of_readLine outcome, true_and]
          rw [List.filterMap_cons_some (record?_of_readLine outcome), List.foldl_cons]

/-- Lines are refused exactly for the first of them that is not read. -/
theorem takeLines_eq_error_iff
    {number : Nat}
    {draft : Draft}
    {lines : List Text}
    {error : ReadError} :
    format.takeLines number draft (lines.map some) = .error error ↔
      ∃ earlier line later cause, lines = earlier ++ line :: later ∧
        (∀ other ∈ earlier, format.accepts other = true) ∧
        format.readLine line = .error cause ∧
        error = .refused { number := number + earlier.length, line, cause } := by
  induction lines generalizing number draft with
  | nil => simp [takeLines]
  | cons first rest step =>
      rw [List.map_cons, takeLines, takeLine]
      cases outcome : format.readLine first with
      | error cause =>
          constructor
          · rintro ⟨⟩
            exact ⟨[], first, rest, cause, rfl, by simp, outcome, rfl⟩
          · rintro ⟨earlier, line, later, refusal, split, read, refused, rfl⟩
            cases earlier with
            | nil =>
                cases split
                rw [outcome] at refused
                cases refused
                rfl
            | cons other others =>
                cases split
                obtain ⟨record, accepted⟩ := (accepts_iff first).1 (read first List.mem_cons_self)
                rw [outcome] at accepted
                cases accepted
      | ok record =>
          simp only [Except.map, step]
          constructor
          · rintro ⟨earlier, line, later, cause, rfl, read, refused, rfl⟩
            refine ⟨first :: earlier, line, later, cause, rfl, ?_, refused, ?_⟩
            · exact List.forall_mem_cons.2 ⟨accepts_of_readLine outcome, read⟩
            · rw [List.length_cons, Nat.add_assoc, Nat.add_comm 1]
          · rintro ⟨earlier, line, later, cause, split, read, refused, rfl⟩
            cases earlier with
            | nil =>
                cases split
                rw [outcome] at refused
                cases refused
            | cons other others =>
                cases split
                refine ⟨others, line, later, cause, rfl, ?_, refused, ?_⟩
                · exact (List.forall_mem_cons.1 read).2
                · rw [List.length_cons, Nat.add_assoc, Nat.add_comm 1]

/-- A list of lines is read exactly if each line is, as the table of their records. -/
theorem readLines_eq_ok_iff {lines : List Text} {table : MappingTable} :
    format.readLines lines = .ok table ↔
      (∀ line ∈ lines, format.accepts line = true) ∧
        Draft.assemble (lines.filterMap format.record?) = table := by
  have finished : format.readLines lines = .ok table ↔
      ∃ draft, format.takeLines 1 .empty (lines.map some) = .ok draft ∧
        draft.finish = table := by
    rw [readLines, readDecoded]
    cases format.takeLines 1 .empty (lines.map some) <;> simp [Except.map]
  simp only [finished, takeLines_eq_ok_iff, and_assoc, exists_and_left, exists_eq_left',
    Draft.assemble]

/-- A list of lines is refused exactly for its first line that is not read. -/
theorem readLines_eq_error_iff {lines : List Text} {error : ReadError} :
    format.readLines lines = .error error ↔
      ∃ earlier line later cause, lines = earlier ++ line :: later ∧
        (∀ other ∈ earlier, format.accepts other = true) ∧
        format.readLine line = .error cause ∧
        error = .refused { number := 1 + earlier.length, line, cause } := by
  have stopped : format.readLines lines = .error error ↔
      format.takeLines 1 .empty (lines.map some) = .error error := by
    rw [readLines, readDecoded]
    cases format.takeLines 1 .empty (lines.map some) <;> simp [Except.map]
  rw [stopped, takeLines_eq_error_iff]

end TextFormat
end ObfuscationMap
