import ObfuscationMap.Proofs.Chain.Strictness
import ObfuscationMap.Proofs.MappingTable.InPlace
import ObfuscationMap.Proofs.TextFormat.Reading
import ObfuscationMap.Proofs.Workspace.Yields

/-!
# Tables that can be reached

Only edits and the readers of texts look at the kind of the types in a class entry. All other
work puts tables together from entries and lookups. Still every table that it makes, from
tables that were made so and from package moves, has class entries between classes alone.
-/

namespace ObfuscationMap

open OrderedMap

/-! ## Tables -/

namespace MappingTable

/-- An edit keeps class entries between classes. -/
theorem RenamesClasses.apply
    {table changed : MappingTable}
    (renamesClasses : table.RenamesClasses)
    {change : Edit}
    (accepted : change.apply table = .ok changed) :
    changed.RenamesClasses := by
  have left := Edit.tableLeft_run_perform table change
  rw [Edit.run_perform, accepted] at left
  have classes : changed.classes = (change.classChange table).apply table.classes :=
    congrArg MappingTable.classes left
  rw [RenamesClasses, classes]
  apply Change.forall_entries_apply renamesClasses
  intro source target given
  obtain ⟨sourceClass, targetClass, -⟩ := Edit.isClass_of_classChange_eq_set given
  exact ⟨sourceClass, targetClass⟩

end MappingTable

namespace Layer

theorem keepsClasses_moved (moves : PackageMoves) : (Layer.moved moves).KeepsClasses where
  entries := fun _ entryIn => absurd entryIn List.not_mem_nil
  renamed := by
    intro type isClass
    obtain ⟨name, rfl⟩ := (JavaType.isClass_iff type).1 isClass
    rw [toRenaming, PackageMoves.renameType_reference]
    rfl

variable {layer : Layer} {table : MappingTable}

theorem KeepsClasses.renamesClasses_onSources
    (keeps : layer.KeepsClasses)
    (renamesClasses : table.RenamesClasses) :
    (layer.onSources table).RenamesClasses := by
  refine List.forall_mem_map.2 fun entry entryIn => ?_
  obtain ⟨sourceClass, -⟩ := renamesClasses entry entryIn
  exact ⟨sourceClass, keeps.renamed sourceClass⟩

theorem KeepsClasses.renamesClasses_onTargets
    (keeps : layer.KeepsClasses)
    (renamesClasses : table.RenamesClasses) :
    (layer.onTargets table).RenamesClasses := by
  intro entry entryIn
  obtain ⟨target, targetIn, rfl⟩ := List.mem_map.1 (mem_of_mem_entries_ofList entryIn)
  have targetClass := renamesClasses.classTargets target targetIn
  exact ⟨targetClass, keeps.renamed targetClass⟩

end Layer

/-- Moving target packages keeps class entries between classes. -/
theorem MappingTable.RenamesClasses.movePackages
    {table : MappingTable}
    (renamesClasses : table.RenamesClasses)
    (answer : Text -> Option Text) :
    (table.movePackages answer).RenamesClasses := by
  rw [MappingTable.movePackages, movePackages?]
  split
  · next moves requested =>
      apply Chain.renamesClasses_chain_of_keepsClasses
      simp only [List.forall_mem_cons]
      exact ⟨renamesClasses.keepsClasses, Layer.keepsClasses_moved moves,
        fun _ absurdIn => absurd absurdIn List.not_mem_nil⟩
  · exact renamesClasses

/-! ## Reachable mappings -/

namespace Mapping

/-- The mappings that can be made by working with tables and package moves. -/
inductive Reachable : Mapping -> Prop
  /-- A new table. -/
  | new : Reachable (.editable .empty)
  /-- The empty table that cannot be changed. -/
  | empty {table} (yields : (MappingAction.share .empty).Yields table) : Reachable (.shared table)
  /-- Package moves. -/
  | moved (moves : PackageMoves) : Reachable (.moved moves)
  /-- A table that is read, in either format. -/
  | read {format : TextFormat} {lines table} (yields : (format.readShared lines).Yields table) :
      Reachable (.shared table)
  /-- A table after a change of it. -/
  | edit {mapping change changed} (given : Reachable mapping)
      (yields : (mapping.edit change).Yields changed) : Reachable changed
  /-- A copy that cannot be changed. -/
  | snapshot {mapping table} (given : Reachable mapping) (yields : mapping.snapshot.Yields table) :
      Reachable (.shared table)
  /-- A copy that can be changed. -/
  | rebuild {table} (given : Reachable (.shared table)) : Reachable (.editable table.table)
  | inverse {mapping table} (given : Reachable mapping) (yields : mapping.inverse.Yields table) :
      Reachable (.shared table)
  | chain {mappings table} (given : ∀ mapping ∈ mappings, Reachable mapping)
      (yields : (chain mappings).Yields table) : Reachable (.shared table)
  | strictChain {mappings table} (given : ∀ mapping ∈ mappings, Reachable mapping)
      (yields : (strictChain mappings).Yields table) : Reachable (.shared table)
  | onSources {mapping of table} (layer : Reachable mapping) (given : Reachable of)
      (yields : (mapping.onSources of).Yields table) : Reachable (.shared table)
  | onTargets {moves of table} (given : Reachable of)
      (yields : (onTargets (.moved moves) of).Yields table) : Reachable (.shared table)
  | movePackages {table : SharedTable} {answer result} (given : Reachable (.shared table))
      (yields : (table.movePackages answer).Yields result) : Reachable (.shared result)

/-- Every mapping that can be reached is a layer that keeps classes. -/
theorem Reachable.keepsClasses
    {mapping : Mapping}
    (reachable : Reachable mapping) :
    mapping.toLayer.KeepsClasses := by
  have empty : MappingTable.empty.RenamesClasses :=
    fun _ entryIn => absurd entryIn List.not_mem_nil
  have shared : ∀ {table : SharedTable}, table.table.RenamesClasses ->
      (Mapping.shared table).toLayer.KeepsClasses :=
    fun renamesClasses => renamesClasses.keepsClasses
  induction reachable with
  | new => exact empty.keepsClasses
  | empty yields =>
      apply shared
      rw [yields.table_of_share]
      exact empty
  | moved moves => exact Layer.keepsClasses_moved moves
  | read yields =>
      have read := TextFormat.readDecoded_of_yields yields
      exact shared (TextFormat.isWritable_of_readDecoded read).renamesClasses
  | edit _ yields step =>
      rcases edit_cases yields with rfl | ⟨table, next, rfl, accepted, rfl⟩
      · exact step
      · exact (step.entries.apply accepted).keepsClasses
  | snapshot _ yields step =>
      apply shared
      rw [table_of_yields_snapshot yields]
      exact step.entries
  | rebuild _ step => exact step
  | inverse _ yields step =>
      apply shared
      rw [table_of_yields_inverse yields]
      exact step.entries.inverse
  | chain _ yields step =>
      apply shared
      rw [table_of_yields_chain yields]
      exact Chain.renamesClasses_chain_of_keepsClasses (List.forall_mem_map.2 step)
  | strictChain _ yields step =>
      apply shared
      rw [Chain.eq_chain_of_strictChain (strictChain_of_yields yields)]
      exact Chain.renamesClasses_chain_of_keepsClasses (List.forall_mem_map.2 step)
  | onSources _ _ yields layerStep step =>
      apply shared
      rw [table_of_yields_onSources yields]
      exact layerStep.renamesClasses_onSources step.entries
  | onTargets _ yields step =>
      apply shared
      rw [table_of_yields_onTargets yields]
      exact (Layer.keepsClasses_moved _).renamesClasses_onTargets step.entries
  | movePackages _ yields step =>
      apply shared
      rw [SharedTable.table_of_yields_movePackages yields]
      exact step.entries.movePackages _

/-- Every mapping that can be reached leads from classes to classes alone. -/
theorem isClass_entries_of_reachable
    {mapping : Mapping}
    (reachable : Reachable mapping) :
    ∀ entry ∈ mapping.entries.classes.entries,
      entry.1.isClass = true ∧ entry.2.isClass = true :=
  reachable.keepsClasses.entries

/-- The inverse of a new table with a class is reached. -/
theorem isClass_entries_of_reachable_inverse :
    ∃ table : SharedTable, Reachable (.shared table) ∧
      table.table.classes.entries = [(.ofLetter 'b', .ofLetter 'a')] ∧
      ∀ entry ∈ (Mapping.shared table).entries.classes.entries,
        entry.1.isClass = true ∧ entry.2.isClass = true := by
  have changed : (edit (.editable .empty) (.setClass (.ofLetter 'a') (.ofLetter 'b'))).Yields
      (.editable { classes := .ofList [(.ofLetter 'a', .ofLetter 'b')] }) :=
    ⟨{}, [], _, _, rfl⟩
  have inverted : Reachable (.shared _) := .inverse (.edit .new changed) ⟨{}, [], _, _, rfl⟩
  exact ⟨_, inverted, rfl, isClass_entries_of_reachable inverted⟩

end Mapping
end ObfuscationMap
