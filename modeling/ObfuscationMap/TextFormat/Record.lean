import ObfuscationMap.MappingTable.Edit
import ObfuscationMap.Text.Blank

/-!
# Records and drafts

Each line of a mapping text holds one record, or nothing: blank lines and lines
that start with a number sign are passed over in every format. A draft gathers
the records of a text. Some records give a member its new name alone; the types
of such members are settled at the end, when all class entries are known.
-/

namespace ObfuscationMap

/-- What a line says. -/
inductive Record
  /-- Nothing, on a blank line or a comment. -/
  | nothing
  /-- Something about packages, which has no effect. -/
  | packageLine (line : Text)
  | classEntry (source target : ClassName)
  | fieldEntry (source target : Field)
  | methodEntry (source target : Method)
  /-- A field and its new name. -/
  | fieldName (source : Field) (name : MemberName)
  /-- A method and its new name. -/
  | methodName (source : Method) (name : MemberName)
  deriving DecidableEq

namespace Record

/-- A line without the white space at its ends, if it holds a record. -/
def content? (line : Text) : Option Text :=
  if (Text.trim line).isEmpty || (Text.trim line).head? == some '#' then
    none
  else
    some (Text.trim line)

/-- Read a class entry from two internal names, both of classes. -/
def ofClassNames (source target : Text) : Except MappingError Record := do
  let source <- JavaType.ofInternalName source
  let target <- JavaType.ofInternalName target
  let source <- source.toClassName
  let target <- target.toClassName
  return .classEntry source target

end Record

/-- The records of a text, gathered. -/
structure Draft where
  /-- The entries whose both sides are known. -/
  table : MappingTable := .empty
  /-- The new names of fields whose types are not settled. -/
  fieldNames : OrderedMap Field MemberName := ∅
  /-- The new names of methods whose types are not settled. -/
  methodNames : OrderedMap Method MemberName := ∅

namespace Draft

/-- The draft of no records. -/
def empty : Draft := {}

/-- Add a record to a draft. -/
def add (draft : Draft) : Record -> Draft
  | .nothing => draft
  | .packageLine _ => draft
  | .classEntry source target =>
      { draft with table := draft.table.putClass source target }
  | .fieldEntry source target =>
      { draft with table := draft.table.putField source target }
  | .methodEntry source target =>
      { draft with table := draft.table.putMethod source target }
  | .fieldName source name =>
      { draft with fieldNames := draft.fieldNames.insert source name }
  | .methodName source name =>
      { draft with methodNames := draft.methodNames.insert source name }

/-- The entry of a field with a new name, whose types follow the classes. -/
def settleField (classes : Renaming) (entry : Field × MemberName) : Field × Field :=
  (entry.1, { entry.1.mapTypes classes.renameType with name := entry.2 })

/-- The entry of a method with a new name, whose types follow the classes. -/
def settleMethod (classes : Renaming) (entry : Method × MemberName) : Method × Method :=
  (entry.1, { entry.1.mapTypes classes.renameType with name := entry.2 })

/-- The table of a draft, with the types of all members settled. -/
def finish (draft : Draft) : MappingTable where
  classes := draft.table.classes
  fields := draft.table.fields.insertAll
    (draft.fieldNames.entries.map (settleField draft.table.toRenaming))
  methods := draft.table.methods.insertAll
    (draft.methodNames.entries.map (settleMethod draft.table.toRenaming))

/-- The table of a list of records. -/
def assemble (records : List Record) : MappingTable :=
  (records.foldl add empty).finish

end Draft
end ObfuscationMap
