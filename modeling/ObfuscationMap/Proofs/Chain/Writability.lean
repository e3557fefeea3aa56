import ObfuscationMap.Proofs.Chain.Leading
import ObfuscationMap.Proofs.MappingTable.Writable
import ObfuscationMap.Proofs.PackageMoves.Naming

/-!
# Writable chains

The inverse of a writable table is writable, and so is a chain that one writable layer
is added to: what the layer brings is led back by the inverse, and what the chain has is
renamed by the layer. Package moves bring nothing, and they keep a chain writable unless
they strip a class that it writes to the spelling of a primitive type.
-/

namespace ObfuscationMap
namespace MappingTable

variable {table : MappingTable}

theorem IsWritable.isNameable_renameField
    (writable : table.IsWritable)
    {field : Field}
    (nameable : field.owner.IsNameable) :
    (table.toRenaming.renameField field).owner.IsNameable := by
  rw [Renaming.renameField]
  cases found : table.toRenaming.field? field with
  | some target => exact (writable.fields _ ((OrderedMap.get?_eq_some_iff _ _ _).1 found)).2
  | none => exact writable.isNameable_renameType nameable

theorem IsWritable.isNameable_renameMethod
    (writable : table.IsWritable)
    {method : Method}
    (nameable : method.owner.IsNameable) :
    (table.toRenaming.renameMethod method).owner.IsNameable := by
  rw [Renaming.renameMethod]
  cases found : table.toRenaming.method? method with
  | some target => exact (writable.methods _ ((OrderedMap.get?_eq_some_iff _ _ _).1 found)).2
  | none => exact writable.isNameable_renameType nameable

/-- The types that are written by their internal names among the targets of a table. -/
def writtenTargets (table : MappingTable) : List JavaType :=
  table.classes.values ++ table.fields.values.map Field.owner ++
    table.methods.values.map Method.owner

theorem mem_writtenTargets_iff (type : JavaType) :
    type ∈ table.writtenTargets ↔
      type ∈ table.classes.values ∨
        (∃ target ∈ table.fields.values, target.owner = type) ∨
          ∃ target ∈ table.methods.values, target.owner = type := by
  simp only [writtenTargets, List.mem_append, List.mem_map, or_assoc]

theorem IsWritable.isNameable_writtenTarget
    (writable : table.IsWritable)
    {type : JavaType}
    (typeIn : type ∈ table.writtenTargets) :
    type.IsNameable := by
  rcases (mem_writtenTargets_iff type).1 typeIn with
    target | ⟨target, targetIn, rfl⟩ | ⟨target, targetIn, rfl⟩
  · obtain ⟨entry, entryIn, rfl⟩ := List.mem_map.1 target
    exact (writable.classes entry entryIn).2
  · obtain ⟨entry, entryIn, rfl⟩ := List.mem_map.1 targetIn
    exact (writable.fields entry entryIn).2
  · obtain ⟨entry, entryIn, rfl⟩ := List.mem_map.1 targetIn
    exact (writable.methods entry entryIn).2

/-- The inverse of a writable table is writable. -/
theorem IsWritable.inverse (writable : table.IsWritable) : table.inverse.IsWritable where
  renamesClasses := writable.renamesClasses.inverse
  classes _ entryIn :=
    (writable.classes _ (OrderedMap.swap_mem_of_mem_inverse entryIn)).symm
  fields _ entryIn :=
    (writable.fields _ (OrderedMap.swap_mem_of_mem_inverse entryIn)).symm
  methods _ entryIn :=
    (writable.methods _ (OrderedMap.swap_mem_of_mem_inverse entryIn)).symm

end MappingTable

/-- A renaming keeps the targets of a table writable. -/
structure Renaming.KeepsWritable (answers : Renaming) (table : MappingTable) : Prop where
  renamesClasses : ∀ target ∈ table.classes.values,
    (answers.renameType target).isClass = true
  classes : ∀ target ∈ table.classes.values, (answers.renameType target).IsNameable
  fields : ∀ target ∈ table.fields.values, (answers.renameField target).owner.IsNameable
  methods : ∀ target ∈ table.methods.values, (answers.renameMethod target).owner.IsNameable

/-- A writable table keeps writable tables writable. -/
theorem MappingTable.IsWritable.keepsWritable
    {table chained : MappingTable}
    (writable : table.IsWritable)
    (before : chained.IsWritable) :
    table.toRenaming.KeepsWritable chained where
  renamesClasses target targetIn :=
    writable.renamesClasses.isClass_renameType
      (before.renamesClasses.classTargets target targetIn)
  classes := List.forall_mem_map.2 fun entry entryIn =>
    writable.isNameable_renameType (before.classes entry entryIn).2
  fields := List.forall_mem_map.2 fun entry entryIn =>
    writable.isNameable_renameField (before.fields entry entryIn).2
  methods := List.forall_mem_map.2 fun entry entryIn =>
    writable.isNameable_renameMethod (before.methods entry entryIn).2

namespace PackageMoves

/-- The moves strip no class that the targets of a table are written with to the spelling
of a primitive type. -/
def Spares (moves : PackageMoves) (table : MappingTable) : Prop :=
  ∀ type ∈ table.writtenTargets, ∀ name, type.innermost = .reference name ->
    ¬moves.StripsToPrimitive name

/-- Moves keep exactly the tables writable that they spare. -/
theorem keepsWritable_iff_spares
    {table : MappingTable}
    (writable : table.IsWritable)
    (moves : PackageMoves) :
    moves.toRenaming.KeepsWritable table ↔ moves.Spares table := by
  constructor
  · intro keeps type typeIn
    apply (isNameable_renameType_iff (writable.isNameable_writtenTarget typeIn)).1
    rcases (MappingTable.mem_writtenTargets_iff type).1 typeIn with
      target | ⟨target, targetIn, rfl⟩ | ⟨target, targetIn, rfl⟩
    · exact keeps.classes type target
    · exact keeps.fields target targetIn
    · exact keeps.methods target targetIn
  · intro spares
    have nameable : ∀ type ∈ table.writtenTargets,
        (moves.toRenaming.renameType type).IsNameable := by
      intro type typeIn
      apply (isNameable_renameType_iff (writable.isNameable_writtenTarget typeIn)).2
      exact spares type typeIn
    constructor
    · intro target targetIn
      have isClass := writable.renamesClasses.classTargets target targetIn
      obtain ⟨name, rfl⟩ := (JavaType.isClass_iff target).1 isClass
      rw [renameType_reference]
      rfl
    · intro target targetIn
      exact nameable target ((MappingTable.mem_writtenTargets_iff target).2 (.inl targetIn))
    · intro target targetIn
      apply nameable target.owner
      exact (MappingTable.mem_writtenTargets_iff _).2 (.inr (.inl ⟨target, targetIn, rfl⟩))
    · intro target targetIn
      apply nameable target.owner
      exact (MappingTable.mem_writtenTargets_iff _).2 (.inr (.inr ⟨target, targetIn, rfl⟩))

end PackageMoves

namespace Chain

/-- A layer with writable entries that keeps the targets of a writable chain writable
makes a writable chain. -/
theorem isWritable_extend
    {chain : Chain}
    {layer : Layer}
    (writable : chain.table.IsWritable)
    (entries : layer.entries.IsWritable)
    (keeps : layer.toRenaming.KeepsWritable chain.table) :
    (chain.extend layer).table.IsWritable where
  renamesClasses :=
    renamesClasses_extend writable.renamesClasses entries.renamesClasses keeps.renamesClasses
  classes := by
    apply forall_entries_carry
    · intro entry entryIn
      obtain ⟨source, target⟩ := entries.classes entry entryIn
      exact ⟨writable.inverse.isNameable_renameType source, target⟩
    · intro entry entryIn
      exact ⟨(writable.classes entry entryIn).1,
        keeps.classes entry.2 (List.mem_map_of_mem entryIn)⟩
  fields := by
    apply forall_entries_carry
    · intro entry entryIn
      obtain ⟨source, target⟩ := entries.fields entry entryIn
      exact ⟨writable.inverse.isNameable_renameField source, target⟩
    · intro entry entryIn
      exact ⟨(writable.fields entry entryIn).1,
        keeps.fields entry.2 (List.mem_map_of_mem entryIn)⟩
  methods := by
    apply forall_entries_carry
    · intro entry entryIn
      obtain ⟨source, target⟩ := entries.methods entry entryIn
      exact ⟨writable.inverse.isNameable_renameMethod source, target⟩
    · intro entry entryIn
      exact ⟨(writable.methods entry entryIn).1,
        keeps.methods entry.2 (List.mem_map_of_mem entryIn)⟩

/-- Package moves make a writable chain of a writable chain exactly if they keep its
targets writable. -/
theorem isWritable_extend_moved_iff
    {chain : Chain}
    (writable : chain.table.IsWritable)
    (moves : PackageMoves) :
    (chain.extend (.moved moves)).table.IsWritable ↔
      moves.toRenaming.KeepsWritable chain.table := by
  constructor
  · intro moved
    have classes := moved.classes
    have fields := moved.fields
    have methods := moved.methods
    have renamesClasses := moved.renamesClasses
    simp only [extend, ownEntries, Layer.entries, MappingTable.empty, carry_own_empty,
      MappingTable.RenamesClasses] at classes fields methods renamesClasses
    -- Each entry of the longer chain is one of the chain before with its target moved.
    constructor
    · exact List.forall_mem_map.2 fun entry entryIn =>
        (renamesClasses _ (List.mem_map_of_mem entryIn)).2
    · exact List.forall_mem_map.2 fun entry entryIn =>
        (classes _ (List.mem_map_of_mem entryIn)).2
    · exact List.forall_mem_map.2 fun entry entryIn =>
        (fields _ (List.mem_map_of_mem entryIn)).2
    · exact List.forall_mem_map.2 fun entry entryIn =>
        (methods _ (List.mem_map_of_mem entryIn)).2
  · intro keeps
    have entries : (Layer.moved moves).entries.IsWritable := MappingTable.isWritable_empty
    exact isWritable_extend writable entries keeps

section Layers

variable {first second : MappingTable}

theorem isWritable_ofLayers_singleton (writable : first.IsWritable) :
    (ofLayers [.stored first]).table.IsWritable := by
  have entries : (Layer.stored first).entries.IsWritable := writable
  have keeps := writable.keepsWritable MappingTable.isWritable_empty
  exact isWritable_extend MappingTable.isWritable_empty entries keeps

/-- The chain of one table has all its targets. -/
theorem mem_writtenTargets_ofLayers_singleton (type : JavaType) :
    type ∈ (ofLayers [.stored first]).table.writtenTargets ↔
      type ∈ first.writtenTargets := by
  have classes : ∀ target, target ∈ (chain [.stored first]).classes.values ↔
      target ∈ first.classes.values := TableKind.classes.mem_values_chain_stored first
  have fields : ∀ target, target ∈ (chain [.stored first]).fields.values ↔
      target ∈ first.fields.values := TableKind.fields.mem_values_chain_stored first
  have methods : ∀ target, target ∈ (chain [.stored first]).methods.values ↔
      target ∈ first.methods.values := TableKind.methods.mem_values_chain_stored first
  rw [MappingTable.mem_writtenTargets_iff, MappingTable.mem_writtenTargets_iff]
  simp only [← classes, ← fields, ← methods]
  exact Iff.rfl

theorem isWritable_chain_pair
    (firstWritable : first.IsWritable)
    (secondWritable : second.IsWritable) :
    (chain [.stored first, .stored second]).IsWritable := by
  have before := isWritable_ofLayers_singleton firstWritable
  have entries : (Layer.stored second).entries.IsWritable := secondWritable
  exact isWritable_extend before entries (secondWritable.keepsWritable before)

/-- A writable table stays writable exactly under the moves that spare it. -/
theorem isWritable_chain_moved_iff
    (writable : first.IsWritable)
    (moves : PackageMoves) :
    (chain [.stored first, .moved moves]).IsWritable ↔ moves.Spares first := by
  have before := isWritable_ofLayers_singleton writable
  have moved := isWritable_extend_moved_iff before moves
  rw [PackageMoves.keepsWritable_iff_spares before] at moved
  simp only [PackageMoves.Spares, mem_writtenTargets_ofLayers_singleton] at moved
  exact moved

end Layers

end Chain
end ObfuscationMap
