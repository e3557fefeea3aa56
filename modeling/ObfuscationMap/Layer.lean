import ObfuscationMap.MappingTable.Basic
import ObfuscationMap.PackageMoves.Basic
import ObfuscationMap.Renamer

/-!
# Layers

A layer is anything that renames: a stored table, a renamer, or package moves.
Only a table has entries; the others answer for whatever they are asked. Every
lookup has a report beside it.
-/

namespace ObfuscationMap

/-- Something that renames. -/
inductive Layer
  | stored (table : MappingTable)
  | computed (renamer : Renamer)
  | moved (moves : PackageMoves)

namespace Layer

/-- The renaming of a layer. -/
def toRenaming : Layer -> Renaming
  | .stored table => table.toRenaming
  | .computed renamer => renamer.toRenaming
  | .moved moves => moves.toRenaming

/-- The stored entries of a layer. -/
def entries : Layer -> MappingTable
  | .stored table => table
  | _ => .empty

/-- The report of asking a layer for its answer about a type. -/
def reportClass? : Layer -> JavaType -> Report
  | .moved moves, .reference name => moves.reportMove name
  | _, _ => .empty

/-- The report of asking a layer for its answer about a field. -/
def reportField? : Layer -> Field -> Report
  | .computed renamer, field => renamer.reportField field
  | _, _ => .empty

/-- The report of asking a layer for its answer about a method. -/
def reportMethod? : Layer -> Method -> Report
  | .computed renamer, method => renamer.reportMethod method
  | _, _ => .empty

/-- The report of renaming a type. -/
def reportType (layer : Layer) (type : JavaType) : Report :=
  layer.reportClass? type.innermost

/-- The report of renaming a field. -/
def reportField (layer : Layer) (field : Field) : Report :=
  layer.reportField? field ++ layer.reportType field.owner

/-- The report of renaming a method: its own answer, the declaring type, the
parameters, and the return type. -/
def reportMethod (layer : Layer) (method : Method) : Report :=
  layer.reportMethod? method ++ layer.reportType method.owner ++
    .join (method.signature.parameters.map layer.reportType) ++
    layer.reportType method.signature.result

/-- The report of renaming types, fields and methods in that order. -/
def reportAll
    (layer : Layer)
    (types : List JavaType)
    (fields : List Field)
    (methods : List Method) : Report :=
  .join (types.map layer.reportType) ++ .join (fields.map layer.reportField) ++
    .join (methods.map layer.reportMethod)

/-- Lead each source of a table to its new form by a layer. -/
def onSources (layer : Layer) (table : MappingTable) : MappingTable where
  classes := table.classes.mapValues fun source _ => layer.toRenaming.renameType source
  fields := table.fields.mapValues fun source _ => layer.toRenaming.renameField source
  methods := table.methods.mapValues fun source _ => layer.toRenaming.renameMethod source

/-- The report of renaming the sources of a table. -/
def reportOnSources (layer : Layer) (table : MappingTable) : Report :=
  layer.reportAll table.classes.keys table.fields.keys table.methods.keys

/-- Lead each target of a table to its new form by a layer. -/
def onTargets (layer : Layer) (table : MappingTable) : MappingTable where
  classes := .ofList (table.classes.values.map fun target =>
    (target, layer.toRenaming.renameType target))
  fields := .ofList (table.fields.values.map fun target =>
    (target, layer.toRenaming.renameField target))
  methods := .ofList (table.methods.values.map fun target =>
    (target, layer.toRenaming.renameMethod target))

/-- The report of renaming the targets of a table. -/
def reportOnTargets (layer : Layer) (table : MappingTable) : Report :=
  layer.reportAll table.classes.values table.fields.values table.methods.values

end Layer
end ObfuscationMap
