import ObfuscationMap.Proofs.Sample
import ObfuscationMap.Proofs.TextFormat.Records

/-!
# Lines as changes of a draft

A processor takes the lines of a text one at a time and changes a draft in place, so what
a line changes before it is refused would stay changed. It reads and checks all words of
a line before it stores anything. So a refused line leaves the draft alone, and what a line
is refused for does not depend on the draft.
-/

namespace ObfuscationMap

/-- A change of a draft that may be refused. What was changed before a refusal stays
changed. -/
abbrev DraftAction := EStateM MappingError Draft

namespace DraftAction

/-- Go on with what a reader gives, or be refused as the reader refuses. -/
def ofReader {α : Type} : Except MappingError α -> DraftAction α
  | .ok value => pure value
  | .error cause => throw cause

theorem ofReader_bind
    {α β : Type}
    (first : Except MappingError α)
    (next : α -> Except MappingError β) :
    ofReader (first >>= next) = ofReader first >>= fun value => ofReader (next value) := by
  cases first <;> rfl

theorem ofReader_pure {α : Type} (value : α) :
    ofReader (pure value : Except MappingError α) = pure value := rfl

/-- Store a class entry, if both sides are classes. -/
def storeClass (source target : JavaType) : DraftAction Unit := do
  let source <- ofReader source.toClassName
  let target <- ofReader target.toClassName
  modify fun draft => { draft with table := draft.table.putClass source target }

/-- Store a field entry. -/
def storeField (source target : Field) : DraftAction Unit :=
  modify fun draft => { draft with table := draft.table.putField source target }

/-- Store a method entry. -/
def storeMethod (source target : Method) : DraftAction Unit :=
  modify fun draft => { draft with table := draft.table.putMethod source target }

/-- Store the new name of a field. -/
def storeFieldName (source : Field) (name : MemberName) : DraftAction Unit :=
  modify fun draft => { draft with fieldNames := draft.fieldNames.insert source name }

/-- Store the new name of a method. -/
def storeMethodName (source : Method) (name : MemberName) : DraftAction Unit :=
  modify fun draft => { draft with methodNames := draft.methodNames.insert source name }

/-- Add the record that a reader gives. -/
def addRecord (reader : Except MappingError Record) : DraftAction Unit := do
  let record <- ofReader reader
  modify fun draft => draft.add record

end DraftAction

open DraftAction

/-! ## The processors -/

namespace Srg

/-- Process the words after the tag of a line. -/
def processArguments (line : Text) (tag : Tag) (arguments : List Text) : DraftAction Unit :=
  match tag, arguments with
  | .packages, _ => pure ()
  | .classes, [source, target] => do
      let source <- ofReader (JavaType.ofInternalName source)
      let target <- ofReader (JavaType.ofInternalName target)
      storeClass source target
  | .fields, [source, target] => do
      let source <- ofReader (Field.ofInternalName source)
      let target <- ofReader (Field.ofInternalName target)
      storeField source target
  | .methods, [source, sourceSignature, target, targetSignature] => do
      let source <- ofReader (Method.ofParts source sourceSignature)
      let target <- ofReader (Method.ofParts target targetSignature)
      storeMethod source target
  | _, _ => throw (.invalidLine line .wrongCount)

/-- Process a line that holds a record, trimmed. -/
def processContent (line : Text) : DraftAction Unit :=
  match Text.words line with
  | [] => pure ()
  | kind :: arguments =>
      match Tag.ofText? kind with
      | some tag => processArguments line tag arguments
      | none => throw (.unrecognizedRecord kind)

/-- Process a line. -/
def processLine (line : Text) : DraftAction Unit :=
  match Record.content? line with
  | some content => processContent content
  | none => pure ()

theorem processArguments_eq (line : Text) (tag : Tag) (arguments : List Text) :
    processArguments line tag arguments = addRecord (ofArguments line tag arguments) := by
  unfold processArguments
  split
  case h_1 => rfl
  case h_2 =>
    simp only [ofArguments, Record.ofClassNames, addRecord, storeClass, ofReader_bind,
      ofReader_pure, bind_assoc, pure_bind]
    rfl
  case h_3 =>
    simp only [ofArguments, addRecord, storeField, ofReader_bind, ofReader_pure, bind_assoc,
      pure_bind]
    rfl
  case h_4 =>
    simp only [ofArguments, addRecord, storeMethod, ofReader_bind, ofReader_pure, bind_assoc,
      pure_bind]
    rfl
  case h_5 =>
    rw [ofArguments]
    · rfl
    all_goals assumption

theorem processLine_eq (line : Text) : processLine line = addRecord (readLine line) := by
  rw [processLine, readLine]
  cases Record.content? line with
  | none => rfl
  | some content =>
      simp only
      rw [processContent, ofContent]
      cases Text.words content with
      | nil => rfl
      | cons kind arguments =>
          simp only
          cases Tag.ofText? kind with
          | none => rfl
          | some tag => exact processArguments_eq content tag arguments

end Srg

namespace Csrg

/-- Process the words of a line. The signature of a method is read first. -/
def processWords (line : Text) : List Text -> DraftAction Unit
  | [source, target] => do
      let source <- ofReader (JavaType.ofInternalName source)
      let target <- ofReader (JavaType.ofInternalName target)
      storeClass source target
  | [owner, name, newName] => do
      let owner <- ofReader (JavaType.ofInternalName owner)
      let name <- ofReader (MemberName.ofText name)
      let newName <- ofReader (MemberName.ofText newName)
      storeFieldName { owner, name } newName
  | [owner, name, signature, newName] => do
      let signature <- ofReader (Signature.ofDescriptor signature)
      let owner <- ofReader (JavaType.ofInternalName owner)
      let name <- ofReader (MemberName.ofText name)
      let newName <- ofReader (MemberName.ofText newName)
      storeMethodName { owner, name, signature } newName
  | _ => throw (.invalidLine line .notTwoToFour)

/-- Process a line. -/
def processLine (line : Text) : DraftAction Unit :=
  match Record.content? line with
  | some content => processWords content (Text.words content)
  | none => pure ()

theorem processWords_eq (line : Text) (words : List Text) :
    processWords line words = addRecord (ofWords line words) := by
  unfold processWords
  split
  case h_1 =>
    simp only [ofWords, Record.ofClassNames, addRecord, storeClass, ofReader_bind,
      ofReader_pure, bind_assoc, pure_bind]
    rfl
  case h_2 =>
    simp only [ofWords, addRecord, storeFieldName, ofReader_bind, ofReader_pure, bind_assoc,
      pure_bind]
    rfl
  case h_3 =>
    simp only [ofWords, addRecord, storeMethodName, ofReader_bind, ofReader_pure, bind_assoc,
      pure_bind]
    rfl
  case h_4 =>
    rw [ofWords]
    · rfl
    all_goals assumption

theorem processLine_eq (line : Text) : processLine line = addRecord (readLine line) := by
  rw [processLine, readLine]
  cases Record.content? line with
  | none => rfl
  | some content => exact processWords_eq content (Text.words content)

end Csrg

namespace TextFormat

/-- Process a line. -/
def processLine : TextFormat -> Text -> DraftAction Unit
  | .srg => Srg.processLine
  | .csrg => Csrg.processLine

/-- The refusal that an action ended with. -/
def refusal? {α : Type} : EStateM.Result MappingError Draft α -> Option MappingError
  | .ok _ _ => none
  | .error cause _ => some cause

/-- The draft that an action left behind, whether it was refused or not. -/
def draftLeft {α : Type} : EStateM.Result MappingError Draft α -> Draft
  | .ok _ draft => draft
  | .error _ draft => draft

/-- The refusal of a line by a processor that has taken no line before. -/
def lineRefusal? (format : TextFormat) (line : Text) : Option MappingError :=
  refusal? ((format.processLine line).run .empty)

/-- Process lines one after another, going on past refusals with the draft they left. -/
def processAll (format : TextFormat) (lines : List Text) (draft : Draft) : Draft :=
  lines.foldl (fun draft line => draftLeft ((format.processLine line).run draft)) draft

/-- Processing a line is reading it and adding its record. -/
theorem processLine_eq (format : TextFormat) (line : Text) :
    format.processLine line = addRecord (format.readLine line) := by
  cases format with
  | srg => exact Srg.processLine_eq line
  | csrg => exact Csrg.processLine_eq line

variable {format : TextFormat}

theorem run_processLine_of_ok
    {line : Text}
    {record : Record}
    (read : format.readLine line = .ok record)
    (draft : Draft) :
    (format.processLine line).run draft = .ok () (draft.add record) := by
  rw [processLine_eq, read]
  rfl

theorem run_processLine_of_error
    {line : Text}
    {cause : MappingError}
    (refused : format.readLine line = .error cause)
    (draft : Draft) :
    (format.processLine line).run draft = .error cause draft := by
  rw [processLine_eq, refused]
  rfl

/-- A draft takes a line as a processor takes it, apart from what a refusal leaves. -/
theorem takeLine_eq_run (draft : Draft) (line : Text) :
    format.takeLine draft line =
      match (format.processLine line).run draft with
      | .ok _ left => .ok left
      | .error cause _ => .error cause := by
  rw [takeLine]
  cases outcome : format.readLine line with
  | ok record =>
      rw [run_processLine_of_ok outcome]
      rfl
  | error cause =>
      rw [run_processLine_of_error outcome]
      rfl

theorem lineRefusal?_eq_some_iff {line : Text} {cause : MappingError} :
    format.lineRefusal? line = some cause ↔ format.readLine line = .error cause := by
  rw [lineRefusal?]
  cases outcome : format.readLine line with
  | ok record => simp [run_processLine_of_ok outcome, refusal?]
  | error other => simp [run_processLine_of_error outcome, refusal?]

theorem lineRefusal?_eq_none_iff {line : Text} :
    format.lineRefusal? line = none ↔ format.accepts line = true := by
  rw [lineRefusal?, accepts_iff]
  cases outcome : format.readLine line with
  | ok record => simp [run_processLine_of_ok outcome, refusal?]
  | error cause => simp [run_processLine_of_error outcome, refusal?]

/-- Going on past refusals adds the records of the lines that are read. -/
theorem processAll_eq (lines : List Text) (draft : Draft) :
    format.processAll lines draft =
      (lines.filterMap format.record?).foldl Draft.add draft := by
  induction lines generalizing draft with
  | nil => rfl
  | cons line rest step =>
      rw [processAll, List.foldl_cons, ← processAll, step]
      cases outcome : format.readLine line with
      | ok record =>
          rw [run_processLine_of_ok outcome,
            List.filterMap_cons_some (record?_of_readLine outcome), List.foldl_cons]
          rfl
      | error cause =>
          rw [run_processLine_of_error outcome,
            List.filterMap_cons_none (record?_of_readLine_error outcome)]
          rfl

/-- Lines that are refused on their own have no record. -/
theorem filterMap_record?_filter (lines : List Text) :
    (lines.filter fun line => (format.lineRefusal? line).isNone).filterMap format.record? =
      lines.filterMap format.record? := by
  rw [List.filterMap_filter]
  apply List.filterMap_congr
  intro line _
  cases refused : format.lineRefusal? line with
  | none => rfl
  | some cause =>
      rw [record?_of_readLine_error (lineRefusal?_eq_some_iff.1 refused)]
      rfl

/-- What is refused depends on the line alone, and a refused line leaves the draft as it
was. So lines are refused exactly if one of them is refused on its own, and it is the first
such line that is reported; going on past the refusals gives what the other lines give. -/
theorem readLines_refusals (format : TextFormat) :
    (∀ draft line,
      refusal? ((format.processLine line).run draft) = format.lineRefusal? line ∧
      (format.lineRefusal? line ≠ none ->
        draftLeft ((format.processLine line).run draft) = draft)) ∧
    (∀ lines, (∃ error, format.readLines lines = .error error) ↔
      ∃ line ∈ lines, format.lineRefusal? line ≠ none) ∧
    (∀ lines error, format.readLines lines = .error error ↔
      ∃ earlier line later cause, lines = earlier ++ line :: later ∧
        (∀ other ∈ earlier, format.lineRefusal? other = none) ∧
        format.lineRefusal? line = some cause ∧
        error = .refused { number := earlier.length + 1, line, cause }) ∧
    (∀ lines, format.readLines (lines.filter fun line => (format.lineRefusal? line).isNone) =
      .ok (format.processAll lines .empty).finish) := by
  refine ⟨?alone, ?some, ?first, ?skipped⟩
  case alone =>
    intro draft line
    rw [lineRefusal?]
    cases outcome : format.readLine line with
    | ok record => simp [run_processLine_of_ok outcome, refusal?]
    | error cause => simp [run_processLine_of_error outcome, refusal?, draftLeft]
  case some =>
    intro lines
    have whole : (∃ table, format.readLines lines = .ok table) ↔
        ∀ line ∈ lines, format.lineRefusal? line = none := by
      simp only [readLines_eq_ok_iff, exists_and_left, exists_eq', and_true,
        lineRefusal?_eq_none_iff]
    have either : (∃ error, format.readLines lines = .error error) ↔
        ¬∃ table, format.readLines lines = .ok table := by
      cases format.readLines lines <;> simp
    rw [either, whole]
    simp only [not_forall, exists_prop, ne_eq]
  case first =>
    intro lines error
    simp only [readLines_eq_error_iff, lineRefusal?_eq_none_iff, lineRefusal?_eq_some_iff,
      Nat.add_comm 1]
  case skipped =>
    intro lines
    rw [readLines_eq_ok_iff, filterMap_record?_filter, processAll_eq, Draft.assemble]
    refine ⟨?_, rfl⟩
    intro line lineIn
    have read := (List.mem_filter.1 lineIn).2
    rwa [Option.isNone_iff_eq_none, lineRefusal?_eq_none_iff] at read

/-- A draft with a class entry. -/
def begunDraft : Draft where
  table := { classes := .ofList [(.ofLetter 'a', .ofLetter 'b')] }

/-- A line with a word too few leaves a draft alone and is the one that is reported. -/
theorem readLines_refusals_begunDraft :
    srg.lineRefusal? "FD: a/b".toList ≠ none ∧
    draftLeft ((srg.processLine "FD: a/b".toList).run begunDraft) = begunDraft ∧
    srg.readLines ["CL: a b".toList, "FD: a/b".toList, "XX: a b".toList] =
      .error (.refused {
        number := 2
        line := "FD: a/b".toList
        cause := .invalidLine "FD: a/b".toList .wrongCount }) := by
  obtain ⟨alone, -, first, -⟩ := readLines_refusals srg
  have refused : srg.lineRefusal? "FD: a/b".toList =
      some (.invalidLine "FD: a/b".toList .wrongCount) := by rfl
  have read : ∀ line ∈ ["CL: a b".toList], srg.lineRefusal? line = none := by decide
  have some : srg.lineRefusal? "FD: a/b".toList ≠ none := by
    rw [refused]
    exact Option.some_ne_none _
  exact ⟨some, (alone begunDraft _).2 some,
    (first _ _).2 ⟨["CL: a b".toList], _, ["XX: a b".toList], _, rfl, read, refused, rfl⟩⟩

end TextFormat
end ObfuscationMap
