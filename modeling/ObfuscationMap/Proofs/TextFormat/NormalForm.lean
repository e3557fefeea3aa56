import ObfuscationMap.Proofs.Member.NormalForm
import ObfuscationMap.Proofs.OrderedMap.LastOf
import ObfuscationMap.Proofs.Text.EncodedOrder
import ObfuscationMap.Proofs.TextFormat.Reading
import ObfuscationMap.Proofs.TextFormat.Rearranging

/-!
# What srg lines are written back as

An srg line that is read has a normal form: its words with single spaces between them, each
in its own normal form. The table of a text is written as the normal forms of its lines with
entries. Of several lines about one class, field or method, only the last is written.
-/

namespace ObfuscationMap

/-- A class that is read from an internal name is written as the name with slashes. -/
theorem JavaType.className_of_ofInternalName
    {text : Text}
    {name : ClassName}
    (read : ofInternalName text = .ok (.reference name)) :
    name.internalName = text.slashed := by
  obtain ⟨stem, depth, inner, shape, stemRead, same⟩ := exists_stem_of_ofSourceName read
  cases depth with
  | zero =>
      rw [arrayOf] at same
      subst same
      rcases ofStem_cases stemRead with ⟨kind, -, absurdShape⟩ | ⟨other, -, rfl, sameClass⟩
      · cases absurdShape
      · cases sameClass
        rw [brackets, List.append_nil] at shape
        rw [ClassName.internalName, ← shape, Text.slashed_dotted]
  | succ depth => cases same

namespace Srg

/-! ## Lines -/

/-- Whether the first word of a line is a tag. -/
def isTagged (tag : Tag) (written : Text) : Bool :=
  (Text.words written).head? == some tag.text

/-- The normal forms of joined names that are each followed by a signature. -/
def normalPairs : List Text -> List Text
  | joined :: signature :: rest =>
      MemberName.normalJoined joined :: Signature.normalSignature signature :: normalPairs rest
  | rest => rest

/-- The normal forms of the words after a tag. -/
def normalArguments : Tag -> List Text -> List Text
  | .packages, arguments => arguments
  | .classes, arguments => arguments.map Text.slashed
  | .fields, arguments => arguments.map MemberName.normalJoined
  | .methods, arguments => normalPairs arguments

/-- The normal form of a line: the normal forms of its words, with single spaces. -/
def normalLine (written : Text) : Text :=
  match Text.words written with
  | [] => []
  | kind :: arguments =>
      match Tag.ofText? kind with
      | some tag => line tag (normalArguments tag arguments)
      | none => [' '].intercalate (kind :: arguments)

/-- The tag of the lines that are read as a record. -/
def tag? : Record -> Option Tag
  | .packageLine _ => some .packages
  | .classEntry _ _ => some .classes
  | .fieldEntry _ _ => some .fields
  | .methodEntry _ _ => some .methods
  | _ => none

/-- The line that the entry of a record is written as. -/
def entryLine? : Record -> Option Text
  | .classEntry source target => some (classLine (.reference source, .reference target))
  | .fieldEntry source target => some (fieldLine (source, target))
  | .methodEntry source target => some (methodLine (source, target))
  | _ => none

/-- What the words after a tag say has the tag and is written in their normal forms. -/
theorem entryLine?_of_ofArguments
    {content : Text}
    {tag : Tag}
    {arguments : List Text}
    {record : Record}
    (read : ofArguments content tag arguments = .ok record) :
    tag? record = some tag ∧
      ∀ written, entryLine? record = some written ->
        written = line tag (normalArguments tag arguments) := by
  unfold ofArguments at read
  split at read
  · cases read
    exact ⟨rfl, fun _ absurdLine => nomatch absurdLine⟩
  · obtain ⟨source, target, rfl, sourceRead, targetRead⟩ := Record.exists_of_ofClassNames read
    refine ⟨rfl, ?_⟩
    rintro _ ⟨⟩
    rw [normalArguments, List.map_cons, List.map_singleton,
      ← JavaType.className_of_ofInternalName sourceRead,
      ← JavaType.className_of_ofInternalName targetRead]
    rfl
  · obtain ⟨source, sourceRead, read⟩ := exists_ok_of_bind_eq_ok read
    obtain ⟨target, targetRead, read⟩ := exists_ok_of_bind_eq_ok read
    cases read
    refine ⟨rfl, ?_⟩
    rintro _ ⟨⟩
    rw [normalArguments, List.map_cons, List.map_singleton,
      ← Field.internalName_of_ofInternalName sourceRead,
      ← Field.internalName_of_ofInternalName targetRead]
    rfl
  · obtain ⟨source, sourceRead, read⟩ := exists_ok_of_bind_eq_ok read
    obtain ⟨target, targetRead, read⟩ := exists_ok_of_bind_eq_ok read
    cases read
    obtain ⟨sourceName, sourceSignature⟩ := Method.normal_of_ofParts sourceRead
    obtain ⟨targetName, targetSignature⟩ := Method.normal_of_ofParts targetRead
    refine ⟨rfl, ?_⟩
    rintro _ ⟨⟩
    rw [normalArguments, normalPairs, normalPairs, normalPairs, ← sourceName, ← sourceSignature,
      ← targetName, ← targetSignature]
    · rfl
    · simp
  · cases read

theorem isTagged_iff {tag : Tag} {written : Text} :
    isTagged tag written = true ↔ ∃ arguments, Text.words written = tag.text :: arguments := by
  rw [isTagged, beq_iff_eq, List.head?_eq_some_iff]

theorem isTagged_eq_beq
    {tag : Tag}
    {written : Text}
    (tagged : isTagged tag written = true)
    (other : Tag) :
    isTagged other written = (other == tag) := by
  rw [isTagged, beq_iff_eq.1 tagged]
  cases tag <;> cases other <;> rfl

/-- A line with a tag is read by the words after it. -/
theorem exists_readLine_eq_ofArguments
    {tag : Tag}
    {written : Text}
    {arguments : List Text}
    (words : Text.words written = tag.text :: arguments) :
    ∃ content, readLine written = ofArguments content tag arguments := by
  have held := Record.content?_map_words written
  have tagged : (List.isEmpty (tag.text :: arguments) ||
      (tag.text :: arguments).head?.bind List.head? == some '#') = false := by
    cases tag <;> rfl
  rw [words, tagged, if_neg Bool.false_ne_true, Option.map_eq_some_iff] at held
  obtain ⟨content, found, contentWords⟩ := held
  refine ⟨content, ?_⟩
  rw [readLine, found]
  simp only [ofContent, contentWords, Tag.ofText?_text]

/-- A line without a tag is read only if it says nothing. -/
theorem eq_nothing_or_isTagged_of_readLine
    {written : Text}
    {record : Record}
    (read : readLine written = .ok record) :
    record = .nothing ∧ (∀ tag, isTagged tag written = false) ∨
      ∃ tag, isTagged tag written = true := by
  by_cases tagged : ∃ tag, isTagged tag written = true
  · exact .inr tagged
  · rw [not_exists] at tagged
    refine .inl ⟨?_, fun tag => Bool.eq_false_iff.2 (tagged tag)⟩
    rw [readLine] at read
    split at read
    · next content held =>
        obtain ⟨rfl, -, -⟩ := Record.content?_eq_some held
        rw [ofContent, Text.words_trim] at read
        split at read
        · cases read
          rfl
        · next kind arguments words =>
            split at read
            · next tag found =>
                rw [Tag.text_of_ofText? found] at words
                exact absurd (isTagged_iff.2 ⟨arguments, words⟩) (tagged tag)
            · cases read
    · cases read
      rfl

/-- A line that is read has the tag of its record, and its entry is written in its normal
form. -/
theorem normalLine_of_readLine
    {written : Text}
    {record : Record}
    (read : readLine written = .ok record) :
    (∀ tag, isTagged tag written = true ↔ tag? record = some tag) ∧
      ∀ result, entryLine? record = some result -> normalLine written = result := by
  rcases eq_nothing_or_isTagged_of_readLine read with ⟨rfl, untagged⟩ | ⟨tag, tagged⟩
  · refine ⟨fun tag => ?_, fun _ absurdLine => nomatch absurdLine⟩
    rw [untagged tag]
    exact iff_of_false Bool.false_ne_true fun absurdTag => nomatch absurdTag
  · obtain ⟨arguments, words⟩ := isTagged_iff.1 tagged
    obtain ⟨content, shape⟩ := exists_readLine_eq_ofArguments words
    obtain ⟨recordTag, entry⟩ := entryLine?_of_ofArguments (shape ▸ read)
    constructor
    · intro other
      rw [recordTag, isTagged_eq_beq tagged, beq_iff_eq, Option.some.injEq, eq_comm]
    · intro result found
      rw [entry result found, normalLine, words]
      simp only [Tag.ofText?_text]

/-- Every record holds an entry in full, or none. -/
theorem names_eq_none_of_readLine
    {written : Text}
    {record : Record}
    (read : readLine written = .ok record) :
    record.fieldName? = none ∧ record.methodName? = none := by
  rcases eq_nothing_or_isTagged_of_readLine read with ⟨rfl, -⟩ | ⟨tag, tagged⟩
  · exact ⟨rfl, rfl⟩
  · have known := ((normalLine_of_readLine read).1 tag).1 tagged
    cases record <;> first | exact ⟨rfl, rfl⟩ | cases known

end Srg

namespace TextFormat

/-! ## Groups -/

/-- What a line gives a new form, if it is read and does. -/
def subject? (format : TextFormat) (line : Text) : Option Subject :=
  (format.record? line).bind Record.subject?

/-- The normal forms of the lines with a tag that are the last about their subject, sorted. -/
def normalGroup (tag : Srg.Tag) (lines : List Text) : List Text :=
  Text.sorted ((Entries.lastBy srg.subject? (lines.filter (Srg.isTagged tag))).map Srg.normalLine)

/-- The records with a tag hold entries of one kind, which are written as their lines. -/
structure IsKind
    {κ : Type}
    (tag : Srg.Tag)
    (select : Record -> Option (κ × κ))
    (write : κ × κ -> Text) : Prop where
  selected : ∀ record, Srg.tag? record = some tag ↔ ∃ entry, select record = some entry
  written : ∀ record entry, select record = some entry ->
    Srg.entryLine? record = some (write entry)
  /-- Records about one subject have entries of one source. -/
  alike : ∀ left entry right other, select left = some entry -> select right = some other ->
    (left.subject? = right.subject? ↔ entry.1 = other.1)

theorem isKind_classes : IsKind .classes Record.classEntry? Srg.classLine where
  selected record := by cases record <;> simp [Srg.tag?, Record.classEntry?]
  written := by
    rintro (_ | _) _ ⟨⟩
    rfl
  alike := by
    rintro (_ | _) _ (_ | _) _ ⟨⟩ ⟨⟩
    simp [Record.subject?]

theorem isKind_fields : IsKind .fields Record.fieldEntry? Srg.fieldLine where
  selected record := by cases record <;> simp [Srg.tag?, Record.fieldEntry?]
  written := by
    rintro (_ | _) _ ⟨⟩
    rfl
  alike := by
    rintro (_ | _) _ (_ | _) _ ⟨⟩ ⟨⟩
    simp [Record.subject?]

theorem isKind_methods : IsKind .methods Record.methodEntry? Srg.methodLine where
  selected record := by cases record <;> simp [Srg.tag?, Record.methodEntry?]
  written := by
    rintro (_ | _) _ ⟨⟩
    rfl
  alike := by
    rintro (_ | _) _ (_ | _) _ ⟨⟩ ⟨⟩
    simp [Record.subject?]

section Group

variable {κ : Type}
variable {tag : Srg.Tag} {select : Record -> Option (κ × κ)} {write : κ × κ -> Text}
variable (kind : IsKind tag select write)
include kind

/-- The lines with a tag hold the entries of one kind, in order. -/
theorem forall₂_filter_isTagged
    {lines : List Text}
    (accepted : ∀ line ∈ lines, srg.accepts line = true) :
    List.Forall₂
      (fun line entry => ∃ record, srg.readLine line = .ok record ∧ select record = some entry)
      (lines.filter (Srg.isTagged tag))
      ((lines.filterMap srg.record?).filterMap select) := by
  induction lines with
  | nil => exact .nil
  | cons line rest step =>
      obtain ⟨first, later⟩ := List.forall_mem_cons.1 accepted
      obtain ⟨record, read⟩ := (accepts_iff line).1 first
      have tagged := ((Srg.normalLine_of_readLine read).1 tag).trans (kind.selected record)
      rw [List.filterMap_cons_some (record?_of_readLine read)]
      cases found : select record with
      | none =>
          have untagged : ¬Srg.isTagged tag line = true := by
            rw [tagged, found]
            rintro ⟨entry, ⟨⟩⟩
          rw [List.filterMap_cons_none found, List.filter_cons_of_neg untagged]
          exact step later
      | some entry =>
          rw [List.filterMap_cons_some found, List.filter_cons_of_pos (tagged.2 ⟨entry, found⟩)]
          exact .cons ⟨record, read, found⟩ (step later)

/-- The entries of one kind are written as the normal forms of the lines with its tag. -/
theorem sorted_map_eq_normalGroup
    [DecidableEq κ]
    {lines : List Text}
    (accepted : ∀ line ∈ lines, srg.accepts line = true) :
    Text.sorted ((OrderedMap.ofList
      ((lines.filterMap srg.record?).filterMap select)).entries.map write) =
        normalGroup tag lines := by
  have subjects : ∀ left entry right other,
      (∃ record, srg.readLine left = .ok record ∧ select record = some entry) ->
      (∃ record, srg.readLine right = .ok record ∧ select record = some other) ->
      (srg.subject? left = srg.subject? right ↔ entry.1 = other.1) := by
    rintro left entry right other ⟨leftRecord, leftRead, leftHeld⟩ ⟨rightRecord, rightRead, held⟩
    rw [subject?, subject?, record?_of_readLine leftRead, record?_of_readLine rightRead]
    exact kind.alike _ _ _ _ leftHeld held
  have kept := Entries.forall₂_lastBy subjects (forall₂_filter_isTagged kind accepted)
  have lines : List.Forall₂ (· = ·)
      ((Entries.lastBy srg.subject? (lines.filter (Srg.isTagged tag))).map Srg.normalLine)
      ((Entries.lastBy Prod.fst ((lines.filterMap srg.record?).filterMap select)).map write) := by
    rw [List.forall₂_map_left_iff, List.forall₂_map_right_iff]
    refine kept.imp ?_
    rintro line entry ⟨record, read, held⟩
    exact (Srg.normalLine_of_readLine read).2 _ (kind.written record entry held)
  rw [List.forall₂_eq_eq_eq] at lines
  rw [normalGroup, lines, Text.sorted_eq_sorted_iff]
  exact (OrderedMap.perm_entries_ofList _).map write

end Group

/-- Each map of a table that is read has the entries of its own kind. -/
theorem assemble_of_accepts
    {lines : List Text}
    (accepted : ∀ line ∈ lines, srg.accepts line = true) :
    Draft.assemble (lines.filterMap srg.record?) = {
      classes := .ofList ((lines.filterMap srg.record?).filterMap Record.classEntry?)
      fields := .ofList ((lines.filterMap srg.record?).filterMap Record.fieldEntry?)
      methods := .ofList ((lines.filterMap srg.record?).filterMap Record.methodEntry?) } := by
  have names : ∀ record ∈ lines.filterMap srg.record?,
      record.fieldName? = none ∧ record.methodName? = none := by
    intro record recordIn
    obtain ⟨line, lineIn, found⟩ := List.mem_filterMap.1 recordIn
    obtain ⟨other, read⟩ := (accepts_iff line).1 (accepted line lineIn)
    rw [record?_of_readLine read, Option.some.injEq] at found
    rw [← found]
    exact Srg.names_eq_none_of_readLine read
  rw [Draft.assemble, Draft.foldl_add,
    List.filterMap_eq_nil_iff.2 fun record recordIn => (names record recordIn).1,
    List.filterMap_eq_nil_iff.2 fun record recordIn => (names record recordIn).2]
  rfl

theorem normalGroup_of_normal
    {tag : Srg.Tag}
    {lines : List Text}
    (normal : ∀ line ∈ lines, Srg.normalLine line = line)
    (distinct : (lines.map srg.subject?).Nodup) :
    normalGroup tag lines = Text.sorted (lines.filter (Srg.isTagged tag)) := by
  have some : (lines.filter (Srg.isTagged tag)).Sublist lines := List.filter_sublist
  rw [normalGroup, Entries.lastBy_eq_self (distinct.sublist (some.map srg.subject?)),
    List.map_congr_left fun line lineIn => normal line (some.subset lineIn), List.map_id']

/-- Lines with tags are those of each tag. -/
theorem perm_filter_isTagged
    {lines : List Text}
    (tagged : ∀ line ∈ lines,
      ∃ tag ∈ [Srg.Tag.classes, .fields, .methods], Srg.isTagged tag line = true) :
    (lines.filter (Srg.isTagged .classes) ++ lines.filter (Srg.isTagged .fields) ++
      lines.filter (Srg.isTagged .methods)).Perm lines := by
  have fields : lines.filter (Srg.isTagged .fields) =
      (lines.filter (!Srg.isTagged .classes ·)).filter (Srg.isTagged .fields) := by
    rw [List.filter_filter]
    apply List.filter_congr
    intro line lineIn
    obtain ⟨tag, tagIn, known⟩ := tagged line lineIn
    rw [Srg.isTagged_eq_beq known, Srg.isTagged_eq_beq known]
    clear known
    revert tag
    decide
  have methods : lines.filter (Srg.isTagged .methods) =
      (lines.filter (!Srg.isTagged .classes ·)).filter (!Srg.isTagged .fields ·) := by
    rw [List.filter_filter]
    apply List.filter_congr
    intro line lineIn
    obtain ⟨tag, tagIn, known⟩ := tagged line lineIn
    rw [Srg.isTagged_eq_beq known, Srg.isTagged_eq_beq known, Srg.isTagged_eq_beq known]
    clear known
    revert tag
    decide
  rw [List.append_assoc, fields, methods]
  refine (List.Perm.append_left _ ?_).trans (List.filter_append_perm _ lines)
  exact List.filter_append_perm _ _

/-- The table of lines that are read is written as their normal forms. -/
theorem srg_lines_assemble
    {lines : List Text}
    (accepted : ∀ line ∈ lines, srg.accepts line = true) :
    srg.lines (Draft.assemble (lines.filterMap srg.record?)) =
      normalGroup .classes lines ++ normalGroup .fields lines ++ normalGroup .methods lines := by
  rw [assemble_of_accepts accepted, TextFormat.lines, Srg.lines]
  simp only [sorted_map_eq_normalGroup isKind_classes accepted,
    sorted_map_eq_normalGroup isKind_fields accepted,
    sorted_map_eq_normalGroup isKind_methods accepted]

/-- A table that is read is written as the normal forms of the lines with entries, each kind
sorted, where of the lines about one class, field or method the last stands. So lines that are
in normal form already, with different subjects, are written back as they are. -/
theorem srg_lines_of_readLines
    {lines : List Text}
    {table : MappingTable}
    (read : srg.readLines lines = .ok table) :
    srg.lines table =
      normalGroup .classes lines ++ normalGroup .fields lines ++ normalGroup .methods lines ∧
    ((∀ line ∈ lines, Srg.normalLine line = line ∧
        ∃ tag ∈ [Srg.Tag.classes, .fields, .methods], Srg.isTagged tag line = true) ->
      (lines.map srg.subject?).Nodup ->
      srg.lines table =
        Text.sorted (lines.filter (Srg.isTagged .classes)) ++
          Text.sorted (lines.filter (Srg.isTagged .fields)) ++
          Text.sorted (lines.filter (Srg.isTagged .methods)) ∧
      (srg.lines table).Perm lines) := by
  have written : srg.lines table =
      normalGroup .classes lines ++ normalGroup .fields lines ++ normalGroup .methods lines := by
    obtain ⟨accepted, rfl⟩ := readLines_eq_ok_iff.1 read
    exact srg_lines_assemble accepted
  refine ⟨written, fun normal distinct => ?_⟩
  have groups : ∀ tag, normalGroup tag lines = Text.sorted (lines.filter (Srg.isTagged tag)) :=
    fun tag => normalGroup_of_normal (fun line lineIn => (normal line lineIn).1) distinct
  rw [groups, groups, groups] at written
  refine ⟨written, ?_⟩
  rw [written]
  have permuted := perm_filter_isTagged fun line lineIn => (normal line lineIn).2
  exact (((Text.sorted_perm _).append (Text.sorted_perm _)).append (Text.sorted_perm _)).trans
    permuted

/-- Lines in other spellings, with two class entries of one class. -/
def looseLines : List Text :=
  ["MD: a.b/f (I(La.b;)V  a/c/g (ILa/b;)V".toList, "CL: a.b a.c".toList,
    "FD: INT[]/x b/y".toList, "# a".toList, "CL:\ta/b a/d ".toList, "PK: . p".toList]

theorem srg_lines_of_readLines_looseLines :
    ∃ table, srg.readLines looseLines = .ok table ∧
      srg.lines table =
        ["CL: a/b a/d".toList, "FD: int[]/x b/y".toList,
          "MD: a/b/f (ILa/b;)V a/c/g (ILa/b;)V".toList] := by
  have accepted : ∀ line ∈ looseLines, srg.accepts line = true := by decide +kernel
  have read := readLines_eq_ok_iff.2 ⟨accepted, rfl⟩
  have classes : normalGroup .classes looseLines = ["CL: a/b a/d".toList] :=
    List.mergeSort_singleton _
  have fields : normalGroup .fields looseLines = ["FD: int[]/x b/y".toList] :=
    List.mergeSort_singleton _
  have methods : normalGroup .methods looseLines =
      ["MD: a/b/f (ILa/b;)V a/c/g (ILa/b;)V".toList] :=
    List.mergeSort_singleton _
  refine ⟨_, read, ?_⟩
  rw [(srg_lines_of_readLines read).1, classes, fields, methods]
  rfl

end TextFormat
end ObfuscationMap
