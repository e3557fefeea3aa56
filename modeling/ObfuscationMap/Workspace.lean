import ObfuscationMap.Chain.Report
import ObfuscationMap.TextFormat.Basic
import ObfuscationMap.PackageMoves.Targets

/-!
# Working with mappings

A mapping is an editable table, a shared table that cannot be changed, or a
layer that computes its answers. An action works with mappings: it leaves notices
behind and may fail. The inverse of a shared table is computed for the first
action that asks for it and kept for all who share the table, so the warning about
lost entries comes once; the ledger keeps account of this.
-/

namespace ObfuscationMap

/-- A table that cannot be changed, with the identity of all its copies. -/
structure SharedTable where
  table : MappingTable
  identity : Nat

/-- A mapping of any kind. -/
inductive Mapping
  | editable (table : MappingTable)
  | shared (table : SharedTable)
  | computed (renamer : Renamer)
  | moved (moves : PackageMoves)

/-- Account of the shared tables: the next free identity, and the identities of
the tables whose inverse is known. -/
structure Ledger where
  next : Nat := 0
  inverted : List Nat := []

/-- The reason for which an action fails. -/
inductive Failure
  /-- An argument, a change or a layer is refused. -/
  | refused (error : MappingError)
  /-- A text cannot be read. -/
  | unreadable (error : ReadError)
  /-- A naming rule met a fault. -/
  | faulty (fault : NamingFault)

/-- Work that reads and writes the ledger, may fail, and leaves notices. What a
failing action has written to the ledger is undone; its notices stay. -/
abbrev MappingAction := StateT Ledger (ExceptT Failure (StateM (List Notice)))

namespace MappingAction

/-- Run an action: its result with the new ledger, or its failure, and the notices
in order. -/
def perform {α : Type} (action : MappingAction α) (ledger : Ledger) :
    Except Failure (α × Ledger) × List Notice :=
  (action.run ledger).run.run []

/-- Leave what a report says: its notices, and its fault as a failure. -/
def leave (report : Report) : MappingAction Unit := do
  modifyThe (List Notice) (· ++ report.notices)
  match report.fault with
  | some fault => throw (.faulty fault)
  | none => return ()

/-- The result of something that may be refused. -/
def accept {α : Type} (result : Except MappingError α) : MappingAction α :=
  match result with
  | .ok value => return value
  | .error error => throw (.refused error)

/-- Share a table under an identity of its own. -/
def share (table : MappingTable) : MappingAction SharedTable := do
  let ledger <- get
  set { ledger with next := ledger.next + 1 }
  return { table, identity := ledger.next }

/-- Invert a shared table, with a warning about lost entries if its inverse was
not known. -/
def invertShared (table : SharedTable) : MappingAction SharedTable := do
  unless (← get).inverted.contains table.identity do
    leave table.table.reportInverse
    modify fun ledger => { ledger with inverted := table.identity :: ledger.inverted }
  share table.table.inverse

end MappingAction

namespace Mapping

open MappingAction

/-- The layer that a mapping is in a chain. -/
def toLayer : Mapping -> Layer
  | .editable table => .stored table
  | .shared table => .stored table.table
  | .computed renamer => .computed renamer
  | .moved moves => .moved moves

/-- The entries of a mapping. -/
def entries (mapping : Mapping) : MappingTable :=
  mapping.toLayer.entries

/-- Ask for a class: the answer about the type, the renamed type, and whether there
is an answer about its innermost type. -/
def lookupClass (mapping : Mapping) (type : JavaType) :
    MappingAction (Option JavaType × JavaType × Bool) := do
  let answers := mapping.toLayer.toRenaming
  leave (mapping.toLayer.reportClass? type)
  leave (mapping.toLayer.reportType type)
  leave (mapping.toLayer.reportClass? type.innermost)
  return (answers.class? type, answers.renameType type, answers.hasClass type)

/-- Ask for a field: the answer about it, the renamed field, and whether there is
an answer. -/
def lookupField (mapping : Mapping) (field : Field) :
    MappingAction (Option Field × Field × Bool) := do
  let answers := mapping.toLayer.toRenaming
  leave (mapping.toLayer.reportField? field)
  leave (mapping.toLayer.reportField field)
  leave (mapping.toLayer.reportField? field)
  return (answers.field? field, answers.renameField field, answers.hasField field)

/-- Ask for a method: the answer about it, the renamed method, and whether there is
an answer. -/
def lookupMethod (mapping : Mapping) (method : Method) :
    MappingAction (Option Method × Method × Bool) := do
  let answers := mapping.toLayer.toRenaming
  leave (mapping.toLayer.reportMethod? method)
  leave (mapping.toLayer.reportMethod method)
  leave (mapping.toLayer.reportMethod? method)
  return (answers.method? method, answers.renameMethod method, answers.hasMethod method)

/-- Change an editable mapping. Every other mapping refuses the change of an entry,
and no other change is made to it. -/
def edit (mapping : Mapping) (change : Edit) : MappingAction Mapping :=
  match mapping, change.operation? with
  | .editable table, _ => do return .editable (← accept (change.apply table))
  | _, some operation => throw (.refused (.unsupported operation))
  | other, none => return other

/-- A shared table of the entries of a mapping. A table that is shared already is
not copied. -/
def snapshot : Mapping -> MappingAction SharedTable
  | .shared table => return table
  | other => share other.entries

/-- The inverse of the entries of a mapping. -/
def inverse (mapping : Mapping) : MappingAction SharedTable := do
  invertShared (← mapping.snapshot)

/-- Lead each source of a mapping to its new form by another. -/
def onSources (mapping of : Mapping) : MappingAction SharedTable := do
  leave (mapping.toLayer.reportOnSources of.entries)
  share (mapping.toLayer.onSources of.entries)

/-- Lead each target of a mapping to its new form by another. -/
def onTargets (mapping of : Mapping) : MappingAction SharedTable := do
  leave (mapping.toLayer.reportOnTargets of.entries)
  share (mapping.toLayer.onTargets of.entries)

/-- Apply mappings in turn. -/
def chain (mappings : List Mapping) : MappingAction SharedTable := do
  let layers := mappings.map toLayer
  leave (reportChain false layers)
  share (ObfuscationMap.chain layers)

/-- Apply mappings in turn, where later ones may only rename what earlier ones
produce. -/
def strictChain (mappings : List Mapping) : MappingAction SharedTable := do
  let layers := mappings.map toLayer
  leave (reportChain true layers)
  share (← accept (ObfuscationMap.strictChain layers))

end Mapping

namespace SharedTable

open MappingAction

/-- Move the target packages of a shared table. The table itself is the result if
the moves are refused. -/
def movePackages (table : SharedTable) (answer : Text -> Option Text) :
    MappingAction SharedTable := do
  leave (table.table.reportMovePackages answer)
  match table.table.movePackages? answer with
  | some moved => share moved
  | none => return table

end SharedTable

/-- Read a shared table from lines that were decoded where possible. -/
def TextFormat.readShared (format : TextFormat) (lines : List (Option Text)) :
    MappingAction SharedTable := do
  MappingAction.leave (format.reportRead lines)
  match format.readDecoded lines with
  | .ok table => MappingAction.share table
  | .error error => throw (.unreadable error)

end ObfuscationMap
