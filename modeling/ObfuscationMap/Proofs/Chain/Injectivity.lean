import ObfuscationMap.Proofs.Chain.Links
import ObfuscationMap.Proofs.Chain.TwoTables
import ObfuscationMap.Proofs.OrderedMap.Inversion

/-!
# Chains that merge no classes

The classes of a chain have targets of its tables alone, so a table with other targets is
linked to the chain, and a link merges nothing. A chain of tables whose targets all differ
therefore leads no two classes to one, and its inverse loses none of them.
-/

namespace ObfuscationMap
namespace Chain

/-- A chain of tables keeps classes apart: they have distinct targets, all of them targets
of its tables. -/
structure KeepsClassesApart (tables : List MappingTable) : Prop where
  distinct : (chain (tables.map .stored)).classes.values.Nodup
  listed : ∀ target ∈ (chain (tables.map .stored)).classes.values,
    ∃ table ∈ tables, target ∈ table.classes.values

/-- A table whose targets are new keeps the classes of a chain apart. -/
theorem KeepsClassesApart.append_singleton
    {tables : List MappingTable}
    {last : MappingTable}
    (apart : KeepsClassesApart tables)
    (renamesClasses : ∀ table ∈ tables ++ [last], table.RenamesClasses)
    (distinct : last.classes.values.Nodup)
    (new : ∀ target ∈ last.classes.values, ∀ table ∈ tables,
      target ∉ table.classes.values) :
    KeepsClassesApart (tables ++ [last]) := by
  have chained : (chain (tables.map .stored)).RenamesClasses :=
    renamesClasses_chain fun table tableIn =>
      renamesClasses table (List.mem_append_left _ tableIn)
  have unproduced : ∀ target ∈ last.classes.values,
      target ∉ (chain (tables.map .stored)).classes.values := by
    intro target targetIn produced
    obtain ⟨table, tableIn, listed⟩ := apart.listed target produced
    exact new target targetIn table tableIn listed
  have unclaimed : ∀ target ∈ last.classes.values,
      ¬∃ other ∈ tables.map Layer.stored, target ∈ other.entries.classes.values := by
    rintro target targetIn ⟨other, otherIn, claimed⟩
    obtain ⟨table, tableIn, rfl⟩ := List.mem_map.1 otherIn
    exact new target targetIn table tableIn claimed
  have linkable : Linkable (chain (tables.map .stored)).classes last.classes :=
    ⟨distinct, unproduced⟩
  have linked : (chain ((tables ++ [last]).map .stored)).classes =
      link (chain (tables.map .stored)).classes last.classes := by
    rw [List.map_append, List.map_singleton]
    apply classes_chain_append_stored chained.classTargets
    · exact (renamesClasses last (by simp)).classSources
    · exact fun target targetIn =>
        iff_of_false (unclaimed target targetIn) (unproduced target targetIn)
  constructor
  · rw [linked]
    exact nodup_values_link linkable apart.distinct
  · intro target targetIn
    rw [linked] at targetIn
    rcases mem_values_of_mem_values_link linkable targetIn with ⟨early, -⟩ | late
    · obtain ⟨table, tableIn, listed⟩ := apart.listed target early
      exact ⟨table, List.mem_append_left _ tableIn, listed⟩
    · exact ⟨last, by simp, late⟩

/-- Tables whose targets all differ make a chain that keeps classes apart. -/
theorem keepsClassesApart
    {tables : List MappingTable}
    (renamesClasses : ∀ table ∈ tables, table.RenamesClasses)
    (distinct : (tables.flatMap fun table => table.classes.values).Nodup) :
    KeepsClassesApart tables := by
  induction tables using List.reverseRecOn with
  | nil => exact ⟨List.nodup_nil, fun _ targetIn => absurd targetIn List.not_mem_nil⟩
  | append_singleton tables last step =>
      rw [List.flatMap_append, List.flatMap_singleton, List.nodup_append] at distinct
      obtain ⟨before, lastDistinct, apart⟩ := distinct
      have earlier := step
        (fun table tableIn => renamesClasses table (List.mem_append_left _ tableIn)) before
      apply earlier.append_singleton renamesClasses lastDistinct
      intro target targetIn table tableIn listed
      exact apart target (List.mem_flatMap_of_mem tableIn listed) target targetIn rfl

/-- A chain of tables whose targets all differ leads no two classes to one target. Its inverse
has as many class entries, and it undoes the renaming of every class of the chain. -/
theorem classes_chain_injective
    {tables : List MappingTable}
    (renamesClasses : ∀ table ∈ tables, table.RenamesClasses)
    (distinct : (tables.flatMap fun table => table.classes.values).Nodup) :
    (chain (tables.map .stored)).classes.values.Nodup ∧
    (chain (tables.map .stored)).inverse.classes.size =
      (chain (tables.map .stored)).classes.size ∧
    ∀ source ∈ (chain (tables.map .stored)).classes.keys,
      (chain (tables.map .stored)).inverse.toRenaming.renameType
        ((chain (tables.map .stored)).toRenaming.renameType source) = source := by
  have apart := (keepsClassesApart renamesClasses distinct).distinct
  have chained := renamesClasses_chain renamesClasses
  refine ⟨apart, OrderedMap.size_inverse_of_nodup apart, fun source key => ?_⟩
  apply MappingTable.renameType_inverse_renameType chained apart
  -- A source is a class, so it is its own innermost type.
  obtain ⟨name, rfl⟩ := (JavaType.isClass_iff source).1 (chained.classSources source key)
  exact .inl key

/-- A new name for the class that was renamed twice, one for its oldest name, and one for a
further class. -/
def thirdTable : MappingTable where
  classes := .ofList [
    (.ofLetter 'e', .ofLetter 'h'), (.ofLetter 'a', .ofLetter 'j'),
    (.ofLetter 'f', .ofLetter 'g')]

/-- The oldest name of a class is a source of the last table as well; the chain goes on with
the entry that it has. -/
theorem classes_chain_injective_thirdTable :
    (∀ table ∈ [lowerTable, upperTable, thirdTable], table.RenamesClasses) ∧
    ([lowerTable, upperTable, thirdTable].flatMap fun table => table.classes.values).Nodup ∧
    (chain [.stored lowerTable, .stored upperTable, .stored thirdTable]).classes.values.Nodup ∧
    (chain [.stored lowerTable, .stored upperTable,
      .stored thirdTable]).inverse.classes.size = 3 ∧
    (chain [.stored lowerTable, .stored upperTable,
      .stored thirdTable]).toRenaming.renameType (.ofLetter 'a') = .ofLetter 'h' ∧
    (chain [.stored lowerTable, .stored upperTable,
      .stored thirdTable]).inverse.toRenaming.renameType (.ofLetter 'h') = .ofLetter 'a' := by
  have renamesClasses : ∀ table ∈ [lowerTable, upperTable, thirdTable],
      table.RenamesClasses := by decide
  have distinct :
      ([lowerTable, upperTable, thirdTable].flatMap fun table =>
        table.classes.values).Nodup := by decide
  obtain ⟨apart, size, undone⟩ := classes_chain_injective renamesClasses distinct
  have named : (chain [.stored lowerTable, .stored upperTable,
      .stored thirdTable]).toRenaming.renameType (.ofLetter 'a') = .ofLetter 'h' := by decide
  refine ⟨renamesClasses, distinct, apart, size.trans (by decide), named, ?_⟩
  have back := undone (.ofLetter 'a') (by decide)
  rwa [List.map_cons, List.map_cons, List.map_singleton, named] at back

end Chain
end ObfuscationMap
