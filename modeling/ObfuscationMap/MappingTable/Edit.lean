import ObfuscationMap.MappingTable.Basic

/-!
# Changing a mapping table

Entries are set one at a time. A class entry leads from a class to another class,
and setting a class to itself removes its entry. A member may be given a new name
alone; its types then follow the class entries that stand at that time.
-/

namespace ObfuscationMap
namespace MappingTable

/-- Store a class entry, also one from a class to itself. -/
def putClass (table : MappingTable) (source target : ClassName) : MappingTable :=
  { table with
    classes := table.classes.insert (.reference source) (.reference target) }

/-- Store a field entry. -/
def putField (table : MappingTable) (source target : Field) : MappingTable :=
  { table with fields := table.fields.insert source target }

/-- Store a method entry. -/
def putMethod (table : MappingTable) (source target : Method) : MappingTable :=
  { table with methods := table.methods.insert source target }

/-- Rename a class. Both types must be classes, and the entry goes away if they
are the same. -/
def setClass
    (table : MappingTable)
    (source target : JavaType) : Except MappingError MappingTable := do
  let sourceName <- source.toClassName
  let targetName <- target.toClassName
  if sourceName = targetName then
    return { table with classes := table.classes.erase source }
  else
    return table.putClass sourceName targetName

/-- Rename a field to a name alone. -/
def setFieldName
    (table : MappingTable)
    (source : Field)
    (name : Text) : Except MappingError MappingTable := do
  let name <- MemberName.ofText name
  let renamed := source.mapTypes table.toRenaming.renameType
  return table.putField source { renamed with name }

/-- Rename a method to a name alone. -/
def setMethodName
    (table : MappingTable)
    (source : Method)
    (name : Text) : Except MappingError MappingTable := do
  let name <- MemberName.ofText name
  let renamed := source.mapTypes table.toRenaming.renameType
  return table.putMethod source { renamed with name }

/-- Keep the class entries that satisfy a test. -/
def retainClasses
    (keep : JavaType -> JavaType -> Bool)
    (table : MappingTable) : MappingTable :=
  { table with classes := table.classes.filter keep }

/-- Keep the field entries that satisfy a test. -/
def retainFields
    (keep : Field -> Field -> Bool)
    (table : MappingTable) : MappingTable :=
  { table with fields := table.fields.filter keep }

/-- Keep the method entries that satisfy a test. -/
def retainMethods
    (keep : Method -> Method -> Bool)
    (table : MappingTable) : MappingTable :=
  { table with methods := table.methods.filter keep }

/-- Remove the class entries. -/
def clearClasses (table : MappingTable) : MappingTable :=
  { table with classes := ∅ }

/-- Remove the field entries. -/
def clearFields (table : MappingTable) : MappingTable :=
  { table with fields := ∅ }

/-- Remove the method entries. -/
def clearMethods (table : MappingTable) : MappingTable :=
  { table with methods := ∅ }

end MappingTable

/-- A change of a mapping table. -/
inductive Edit
  | setClass (source target : JavaType)
  | setField (source target : Field)
  | setMethod (source target : Method)
  | setFieldName (source : Field) (name : Text)
  | setMethodName (source : Method) (name : Text)
  | retainClasses (keep : JavaType -> JavaType -> Bool)
  | retainFields (keep : Field -> Field -> Bool)
  | retainMethods (keep : Method -> Method -> Bool)
  | clearClasses
  | clearFields
  | clearMethods

namespace Edit

/-- Apply a change to a table, unless it is refused. -/
def apply (table : MappingTable) : Edit -> Except MappingError MappingTable
  | .setClass source target => table.setClass source target
  | .setField source target => .ok (table.putField source target)
  | .setMethod source target => .ok (table.putMethod source target)
  | .setFieldName source name => table.setFieldName source name
  | .setMethodName source name => table.setMethodName source name
  | .retainClasses keep => .ok (table.retainClasses keep)
  | .retainFields keep => .ok (table.retainFields keep)
  | .retainMethods keep => .ok (table.retainMethods keep)
  | .clearClasses => .ok table.clearClasses
  | .clearFields => .ok table.clearFields
  | .clearMethods => .ok table.clearMethods

/-- Renaming a class to another is never refused. -/
theorem apply_setClass (table : MappingTable) (source target : ClassName) :
    apply table (.setClass (.reference source) (.reference target)) =
      if source = target then
        .ok { table with classes := table.classes.erase (.reference source) }
      else
        .ok (table.putClass source target) := rfl

/-- The operation that a mapping which cannot be changed refuses, for the changes
of one entry that every mapping is asked for. -/
def operation? : Edit -> Option SetOperation
  | .setClass .. => some .setClass
  | .setField .. => some .setField
  | .setMethod .. => some .setMethod
  | _ => none

end Edit
end ObfuscationMap
