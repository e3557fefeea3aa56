import ObfuscationMap.Proofs.MappingTable.Writable

/-!
# Members that follow the class entries

A compact text holds the new name of a member alone, and the types of the renamed
member follow the class entries. This module says what is left of a table then, when
nothing of it is lost, and which tables have a compact text that is read at all.
-/

namespace ObfuscationMap
namespace MappingTable

/-- A renamed field with the name that it has and the declaring type that the class
entries give it. -/
def followField (table : MappingTable) (source target : Field) : Field where
  owner := table.toRenaming.renameType source.owner
  name := target.name

/-- A renamed method with the name that it has and the types that the class entries
give it. -/
def followMethod (table : MappingTable) (source target : Method) : Method where
  owner := table.toRenaming.renameType source.owner
  name := target.name
  signature := source.signature.mapTypes table.toRenaming.renameType

/-- The table whose renamed members have the types that the class entries give them. -/
def following (table : MappingTable) : MappingTable where
  classes := table.classes
  fields := table.fields.mapValues table.followField
  methods := table.methods.mapValues table.followMethod

/-- The types of every renamed member are the ones that the class entries give it. -/
structure FollowsClasses (table : MappingTable) : Prop where
  fields : ∀ entry ∈ table.fields.entries,
    entry.2.owner = table.toRenaming.renameType entry.1.owner
  methods : ∀ entry ∈ table.methods.entries,
    entry.2.owner = table.toRenaming.renameType entry.1.owner ∧
      entry.2.signature = entry.1.signature.mapTypes table.toRenaming.renameType

/-- Everything that a compact text holds by its internal name is read back. -/
structure IsCompactlyWritable (table : MappingTable) : Prop where
  renamesClasses : table.RenamesClasses
  classes : ∀ entry ∈ table.classes.entries, entry.1.IsNameable ∧ entry.2.IsNameable
  fields : ∀ source ∈ table.fields.keys, source.owner.IsNameable
  methods : ∀ source ∈ table.methods.keys, source.owner.IsNameable

theorem IsWritable.isCompactlyWritable
    {table : MappingTable}
    (writable : table.IsWritable) :
    table.IsCompactlyWritable where
  renamesClasses := writable.renamesClasses
  classes := writable.classes
  fields source sourceIn := by
    obtain ⟨entry, entryIn, rfl⟩ := List.mem_map.1 sourceIn
    exact (writable.fields entry entryIn).1
  methods source sourceIn := by
    obtain ⟨entry, entryIn, rfl⟩ := List.mem_map.1 sourceIn
    exact (writable.methods entry entryIn).1

theorem followField_eq_iff (table : MappingTable) (source target : Field) :
    table.followField source target = target ↔
      target.owner = table.toRenaming.renameType source.owner := by
  cases target
  simp [followField, eq_comm]

theorem followMethod_eq_iff (table : MappingTable) (source target : Method) :
    table.followMethod source target = target ↔
      target.owner = table.toRenaming.renameType source.owner ∧
        target.signature = source.signature.mapTypes table.toRenaming.renameType := by
  cases target
  simp [followMethod, eq_comm]

/-- Following the classes changes nothing exactly if the members follow them already. -/
theorem sameEntries_following_self_iff (table : MappingTable) :
    table.following.sameEntries table = true ↔ table.FollowsClasses := by
  have classes : table.classes.sameEntries table.classes = true :=
    (OrderedMap.sameEntries_iff_perm _ _).2 (List.Perm.refl _)
  simp only [sameEntries, following, classes, Bool.true_and, Bool.and_eq_true,
    OrderedMap.sameEntries_mapValues_iff, followField_eq_iff, followMethod_eq_iff]
  exact ⟨fun follows => ⟨follows.1, follows.2⟩, fun follows => ⟨follows.1, follows.2⟩⟩

/-- The order of the entries does not matter for following the classes. -/
theorem sameEntries_following
    {left right : MappingTable}
    (same : left.sameEntries right = true) :
    left.following.sameEntries right.following = true := by
  simp only [sameEntries, Bool.and_eq_true] at same
  obtain ⟨⟨classes, fields⟩, methods⟩ := same
  have alike : left.toRenaming.renameType = right.toRenaming.renameType := by
    have answers : left.classes.get? = right.classes.get? :=
      funext ((OrderedMap.sameEntries_iff_get? _ _).1 classes)
    funext type
    simp only [Renaming.renameType, toRenaming, answers]
  have fieldsAlike : left.followField = right.followField := by
    funext source target
    rw [followField, followField, alike]
  have methodsAlike : left.followMethod = right.followMethod := by
    funext source target
    rw [followMethod, followMethod, alike]
  simp only [sameEntries, following, Bool.and_eq_true, OrderedMap.sameEntries_iff_get?,
    OrderedMap.get?_mapValues, fieldsAlike, methodsAlike] at classes fields methods ⊢
  exact ⟨⟨classes, fun source => by rw [fields source]⟩,
    fun source => by rw [methods source]⟩

end MappingTable
end ObfuscationMap
