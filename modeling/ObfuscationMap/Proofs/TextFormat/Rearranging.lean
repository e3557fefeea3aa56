import ObfuscationMap.Proofs.Sample
import ObfuscationMap.Proofs.Text.Spacing
import ObfuscationMap.Proofs.TextFormat.Records

/-!
# Texts up to order and layout

A record changes one entry of a draft, so the table of a text depends on the order of the
lines about one class, field or method alone. Lines without an entry may come and go, and
since every line is read by its words, white space between the words does not matter.
-/

namespace ObfuscationMap

/-- What a record gives a new form. -/
inductive Subject
  | class (source : ClassName)
  | field (source : Field)
  | method (source : Method)
  deriving DecidableEq

namespace Record

/-- The class, field or method that a record gives a new form, if it does. -/
def subject? : Record -> Option Subject
  | .nothing => none
  | .packageLine _ => none
  | .classEntry source _ => some (.class source)
  | .fieldEntry source _ => some (.field source)
  | .methodEntry source _ => some (.method source)
  | .fieldName source _ => some (.field source)
  | .methodName source _ => some (.method source)

/-- Whether a record gives something a new form. -/
def isAbout (subject : Subject) (record : Record) : Bool :=
  record.subject? == some subject

/-- What a record says to a draft: nothing, if it is about packages. -/
def effect : Record -> Record
  | .packageLine _ => .nothing
  | record => record

theorem isAbout_of_classEntry?
    {record : Record}
    {source : ClassName}
    {value : JavaType}
    (held : record.classEntry? = some (.reference source, value)) :
    record.isAbout (.class source) = true := by
  cases record <;> cases held
  exact beq_self_eq_true _

theorem isAbout_of_fieldEntry?
    {record : Record}
    {source : Field}
    {value : Field}
    (held : record.fieldEntry? = some (source, value)) :
    record.isAbout (.field source) = true := by
  cases record <;> cases held
  exact beq_self_eq_true _

theorem isAbout_of_methodEntry?
    {record : Record}
    {source : Method}
    {value : Method}
    (held : record.methodEntry? = some (source, value)) :
    record.isAbout (.method source) = true := by
  cases record <;> cases held
  exact beq_self_eq_true _

theorem isAbout_of_fieldName?
    {record : Record}
    {source : Field}
    {value : MemberName}
    (held : record.fieldName? = some (source, value)) :
    record.isAbout (.field source) = true := by
  cases record <;> cases held
  exact beq_self_eq_true _

theorem isAbout_of_methodName?
    {record : Record}
    {source : Method}
    {value : MemberName}
    (held : record.methodName? = some (source, value)) :
    record.isAbout (.method source) = true := by
  cases record <;> cases held
  exact beq_self_eq_true _

end Record

/-! ## Order -/

namespace Draft

section Order

variable {left right : List Record}
variable (same : ∀ subject, left.filter (·.isAbout subject) = right.filter (·.isAbout subject))
include same

/-- The class entries depend on the order of the records about each class. -/
theorem get?_classes_assemble_congr (type : JavaType) :
    (assemble left).classes.get? type = (assemble right).classes.get? type := by
  rw [classes_assemble, classes_assemble]
  cases type with
  | reference name =>
      exact OrderedMap.get?_ofList_filterMap_congr
        (fun _ _ => Record.isAbout_of_classEntry?) (same (.class name))
  | _ =>
      -- No entry is about a type that is no class.
      have none : left.filter (fun _ => false) = right.filter (fun _ => false) := by
        rw [List.filter_false, List.filter_false]
      refine OrderedMap.get?_ofList_filterMap_congr ?_ none
      intro record value selected
      cases record <;> cases selected

theorem get?_fields_assemble_congr (source : Field) :
    (assemble left).fields.get? source = (assemble right).fields.get? source := by
  have classes := funext (get?_classes_assemble_congr same)
  have names := OrderedMap.get?_ofList_filterMap_congr
    (fun _ _ => Record.isAbout_of_fieldName?) (same (.field source))
  have entries := OrderedMap.get?_ofList_filterMap_congr
    (fun _ _ => Record.isAbout_of_fieldEntry?) (same (.field source))
  rw [get?_fields_assemble, get?_fields_assemble, classes, names, entries]

theorem get?_methods_assemble_congr (source : Method) :
    (assemble left).methods.get? source = (assemble right).methods.get? source := by
  have classes := funext (get?_classes_assemble_congr same)
  have names := OrderedMap.get?_ofList_filterMap_congr
    (fun _ _ => Record.isAbout_of_methodName?) (same (.method source))
  have entries := OrderedMap.get?_ofList_filterMap_congr
    (fun _ _ => Record.isAbout_of_methodEntry?) (same (.method source))
  rw [get?_methods_assemble, get?_methods_assemble, classes, names, entries]

/-- Records in another order make the same entries, if those about one class, field or
method keep theirs. -/
theorem sameEntries_assemble : (assemble left).sameEntries (assemble right) = true := by
  rw [MappingTable.sameEntries_iff, OrderedMap.sameEntries_iff_get?,
    OrderedMap.sameEntries_iff_get?, OrderedMap.sameEntries_iff_get?]
  exact ⟨get?_classes_assemble_congr same, get?_fields_assemble_congr same,
    get?_methods_assemble_congr same⟩

end Order

/-- Records that say nothing may be left out. -/
theorem foldl_add_effect (records : List Record) (draft : Draft) :
    ((records.map Record.effect).filter (· ≠ .nothing)).foldl add draft =
      records.foldl add draft := by
  induction records generalizing draft with
  | nil => rfl
  | cons record rest step => cases record <;> exact step _

end Draft

/-! ## Layout -/

namespace Record

theorem content?_eq_some
    {line content : Text}
    (held : content? line = some content) :
    Text.trim line = content ∧ content ≠ [] ∧ content.head? ≠ some '#' := by
  rw [content?] at held
  split at held
  · cases held
  · next some =>
      cases held
      rw [Bool.or_eq_true, List.isEmpty_iff, beq_iff_eq, not_or] at some
      exact ⟨rfl, some⟩

/-- Whether a line holds a record shows in its words, and so do the words of the
record. -/
theorem content?_map_words (line : Text) :
    (content? line).map Text.words =
      if (Text.words line).isEmpty || (Text.words line).head?.bind List.head? == some '#' then
        none
      else
        some (Text.words line) := by
  have empty : (Text.trim line).isEmpty = (Text.words line).isEmpty := by
    rw [Bool.eq_iff_iff, List.isEmpty_iff, List.isEmpty_iff, Text.trim_eq_nil_iff]
  rw [content?, Text.head?_trim, empty]
  split
  · rfl
  · rw [Option.map_some, Text.words_trim]

end Record

namespace Srg

/-- What arguments say does not depend on the line around them. -/
theorem effect_ofArguments (line other : Text) (tag : Tag) (arguments : List Text) :
    (ofArguments line tag arguments).toOption.map Record.effect =
      (ofArguments other tag arguments).toOption.map Record.effect := by
  unfold ofArguments
  split <;> rfl

/-- Lines with the same words say the same. -/
theorem effect_ofContent
    {line other : Text}
    (same : Text.words line = Text.words other) :
    (ofContent line).toOption.map Record.effect =
      (ofContent other).toOption.map Record.effect := by
  rw [ofContent, ofContent, same]
  split
  · rfl
  · split
    · exact effect_ofArguments line other _ _
    · rfl

end Srg

/-- What words say does not depend on the line around them. -/
theorem Csrg.effect_ofWords (line other : Text) (words : List Text) :
    (ofWords line words).toOption.map Record.effect =
      (ofWords other words).toOption.map Record.effect := by
  unfold ofWords
  split <;> rfl

namespace TextFormat

variable {format : TextFormat}

/-- Whether a line is read as a record about something. -/
def concerns (format : TextFormat) (subject : Subject) (line : Text) : Bool :=
  (format.record? line).any (·.isAbout subject)

/-- Whether a line has no effect: it is blank, it starts with a number sign, or it is a
line about packages. -/
def isIdle (format : TextFormat) (line : Text) : Bool :=
  line.all Text.isBlank || (Text.trim line).head? == some '#' ||
    (format == .srg && (Text.words line).head? == some Srg.Tag.packages.text)

/-- What a line says to a draft, if it is read. -/
def effect? (format : TextFormat) (line : Text) : Option Record :=
  (format.record? line).map Record.effect

theorem filter_isAbout (subject : Subject) (lines : List Text) :
    (lines.filterMap format.record?).filter (·.isAbout subject) =
      (lines.filter (format.concerns subject)).filterMap format.record? := by
  rw [List.filter_filterMap, List.filterMap_filter]
  apply List.filterMap_congr
  intro line _
  rw [concerns]
  cases format.record? line <;> simp [Option.filter]

/-- The table of lines that are all read is put together from their effects. -/
theorem readLines_eq_ok_iff_effect {lines : List Text} {table : MappingTable} :
    format.readLines lines = .ok table ↔
      (∀ line ∈ lines, format.effect? line ≠ none) ∧
        Draft.assemble ((lines.filterMap format.effect?).filter (· ≠ .nothing)) = table := by
  have read : ∀ line, format.accepts line = true ↔ format.effect? line ≠ none := by
    intro line
    rw [accepts, effect?, record?]
    cases format.readLine line <;> simp [Except.isOk, Except.toBool, Except.toOption]
  have effects : lines.filterMap format.effect? =
      (lines.filterMap format.record?).map Record.effect :=
    List.map_filterMap.symm
  rw [readLines_eq_ok_iff, effects, Draft.assemble, Draft.assemble, Draft.foldl_add_effect]
  simp only [read]

/-- The table depends on what the lines say alone. -/
theorem readLines_of_map_effect?
    {lines others : List Text}
    {table : MappingTable}
    (read : format.readLines lines = .ok table)
    (same : others.map format.effect? = lines.map format.effect?) :
    format.readLines others = .ok table := by
  have effects : ∀ lines : List Text,
      lines.filterMap format.effect? = (lines.map format.effect?).filterMap id := by
    intro lines
    rw [List.filterMap_map]
    rfl
  rw [readLines_eq_ok_iff_effect, ← List.forall_mem_map (P := (· ≠ none)), effects] at read ⊢
  rwa [same]

theorem readLine_of_content?_eq_none
    {line : Text}
    (idle : Record.content? line = none) :
    format.readLine line = .ok .nothing := by
  cases format with
  | srg => rw [readLine, Srg.readLine, idle]
  | csrg => rw [readLine, Csrg.readLine, idle]

/-- Idle lines say nothing. -/
theorem effect?_of_isIdle
    {line : Text}
    (idle : format.isIdle line = true) :
    format.effect? line = some .nothing := by
  rw [effect?, record?]
  cases content : Record.content? line with
  | none =>
      rw [readLine_of_content?_eq_none content]
      rfl
  | some trimmed =>
      obtain ⟨rfl, nonempty, noComment⟩ := Record.content?_eq_some content
      rw [isIdle, Bool.or_eq_true, Bool.or_eq_true, Bool.and_eq_true, beq_iff_eq, beq_iff_eq,
        beq_iff_eq, List.all_eq_true] at idle
      rcases idle with (blank | comment) | ⟨rfl, packages⟩
      · have none := Text.IsGap.words_eq_nil blank
        exact absurd ((Text.trim_eq_nil_iff line).2 none) nonempty
      · exact absurd comment noComment
      · obtain ⟨arguments, split⟩ := List.head?_eq_some_iff.1 packages
        rw [← Text.words_trim] at split
        rw [readLine, Srg.readLine, content]
        simp only [Srg.ofContent, split]
        rfl

/-- Lines with the same words say the same. -/
theorem effect?_congr
    {line other : Text}
    (same : Text.words line = Text.words other) :
    format.effect? line = format.effect? other := by
  have contents : (Record.content? line).map Text.words =
      (Record.content? other).map Text.words := by
    rw [Record.content?_map_words, Record.content?_map_words, same]
  rw [effect?, effect?, record?, record?]
  cases left : Record.content? line with
  | none =>
      rw [left, Option.map_none, eq_comm, Option.map_eq_none_iff] at contents
      rw [readLine_of_content?_eq_none left, readLine_of_content?_eq_none contents]
  | some content =>
      rw [left, Option.map_some, eq_comm, Option.map_eq_some_iff] at contents
      obtain ⟨otherContent, right, words⟩ := contents
      cases format with
      | srg =>
          rw [readLine, Srg.readLine, Srg.readLine, left, right]
          exact Srg.effect_ofContent words.symm
      | csrg =>
          rw [readLine, Csrg.readLine, Csrg.readLine, left, right]
          simp only [words]
          exact Csrg.effect_ofWords content otherContent _

/-! ## Texts -/

theorem map_effect?_of_respaced
    {lines others : List Text}
    (respaced : List.Forall₂ Text.Respaced lines others) :
    others.map format.effect? = lines.map format.effect? := by
  induction respaced with
  | nil => rfl
  | cons first _ rest =>
      rw [List.map_cons, List.map_cons, rest, effect?_congr first.words_eq]

/-- Idle lines may be left out. -/
theorem filterMap_effect?_filter (lines : List Text) :
    ((lines.filter (!format.isIdle ·)).filterMap format.effect?).filter (· ≠ .nothing) =
      (lines.filterMap format.effect?).filter (· ≠ .nothing) := by
  rw [List.filterMap_filter, List.filter_filterMap, List.filter_filterMap]
  apply List.filterMap_congr
  intro line _
  cases idle : format.isIdle line with
  | false => rfl
  | true =>
      rw [effect?_of_isIdle idle]
      rfl

/-- Lines that are read as a table are read as a table with the same entries in every order
that keeps the lines about one class, field or method in theirs. The table stays as it is
when idle lines are put in or taken out, and when white space is changed. -/
theorem readLines_rearranged
    {format : TextFormat}
    {lines : List Text}
    {table : MappingTable}
    (read : format.readLines lines = .ok table) :
    (∀ others : List Text, others.Perm lines ->
      (∀ subject, others.filter (format.concerns subject) =
        lines.filter (format.concerns subject)) ->
      ∃ other, format.readLines others = .ok other ∧ other.sameEntries table = true) ∧
    (∀ others : List Text,
      others.filter (!format.isIdle ·) = lines.filter (!format.isIdle ·) ->
      format.readLines others = .ok table) ∧
    (∀ others : List Text, List.Forall₂ Text.Respaced lines others ->
      format.readLines others = .ok table) := by
  refine ⟨?order, ?idle, ?respaced⟩
  case order =>
    intro others permuted order
    obtain ⟨accepted, rfl⟩ := readLines_eq_ok_iff.1 read
    refine ⟨_, readLines_eq_ok_iff.2 ⟨?_, rfl⟩, Draft.sameEntries_assemble ?_⟩
    · exact fun line lineIn => accepted line (permuted.subset lineIn)
    · intro subject
      rw [filter_isAbout, filter_isAbout, order subject]
  case idle =>
    intro others same
    -- A line of the other text is idle, or it is one of the lines that were read.
    obtain ⟨accepted, rfl⟩ := readLines_eq_ok_iff_effect.1 read
    refine readLines_eq_ok_iff_effect.2 ⟨?_, ?_⟩
    · intro line lineIn
      by_cases idle : format.isIdle line = true
      · rw [effect?_of_isIdle idle]
        exact Option.some_ne_none _
      · have kept : line ∈ others.filter (!format.isIdle ·) :=
          List.mem_filter.2 ⟨lineIn, by simp [idle]⟩
        rw [same] at kept
        exact accepted line (List.mem_filter.1 kept).1
    · rw [← filterMap_effect?_filter others, same, filterMap_effect?_filter]
  case respaced =>
    intro others respaced
    exact readLines_of_map_effect? read (map_effect?_of_respaced respaced)

/-- Two class entries of one class, with a field between them. -/
def repeatedLines : List Text :=
  ["CL: a b".toList, "FD: a/x b/y".toList, "CL: a c".toList]

/-- The table of these lines. -/
def repeatedTable : MappingTable where
  classes := .ofList [(.ofLetter 'a', .ofLetter 'c')]
  fields := .ofList [
    (⟨.ofLetter 'a', .ofLetter 'x'⟩, ⟨.ofLetter 'b', .ofLetter 'y'⟩)]

theorem readLines_rearranged_repeatedLines :
    srg.readLines repeatedLines = .ok repeatedTable ∧
    (∃ other, srg.readLines
        ["FD: a/x b/y".toList, "CL: a b".toList, "CL: a c".toList] = .ok other ∧
      other.sameEntries repeatedTable = true) ∧
    srg.readLines ["PK: . c".toList, "CL: a b".toList, "FD: a/x b/y".toList, [],
      "  # again".toList, "CL: a c".toList] = .ok repeatedTable ∧
    srg.readLines ["\tCL:   a b".toList, "FD: a/x b/y".toList, "CL: a c".toList ++ [' ']] =
      .ok repeatedTable := by
  have read : srg.readLines repeatedLines = .ok repeatedTable := by rfl
  obtain ⟨order, idle, respaced⟩ := readLines_rearranged read
  refine ⟨read, ?_, idle _ (by decide), ?_⟩
  · apply order
    · exact List.Perm.swap _ _ _
    · intro subject
      have apart : srg.concerns subject "FD: a/x b/y".toList = false ∨
          srg.concerns subject "CL: a b".toList = false := by
        cases subject with
        | «class» source => exact .inl rfl
        | field source => exact .inr rfl
        | method source => exact .inl rfl
      rcases apart with none | none <;>
        simp only [repeatedLines, List.filter_cons, none, Bool.false_eq_true, if_false]
  · apply respaced
    have tab : Text.IsGap ['\t'] := by decide
    have space : Text.IsGap [' '] := by decide
    have spaces : Text.IsGap [' ', ' ', ' '] := by decide
    have narrow : "CL: a b".toList = "CL:".toList ++ [' '] ++ "a b".toList := by decide
    have wide : "\tCL:   a b".toList =
        ['\t'] ++ ("CL:".toList ++ [' ', ' ', ' '] ++ "a b".toList) := by decide
    have spread := Text.Respaced.between "CL:".toList "a b".toList space spaces
      (by decide) (by decide)
    have first := spread.both (.before _ tab)
    rw [← narrow, ← wide] at first
    have last := Text.Respaced.after "CL: a c".toList space
    rw [repeatedLines, List.forall₂_cons, List.forall₂_cons, List.forall₂_cons]
    exact ⟨first, .same _, last, .nil⟩

end TextFormat
end ObfuscationMap
