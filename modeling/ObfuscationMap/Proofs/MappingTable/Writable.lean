import ObfuscationMap.Proofs.JavaType.RoundTrip
import ObfuscationMap.Proofs.MappingTable.Inverse

/-!
# Tables that can be written by internal names

The text formats write class entries and declaring types by internal names, and they
read classes alone in class entries. A table fits them if its class entries lead from
classes to classes and every type that is written by its internal name is nameable.
The types of signatures are written as descriptors and need nothing.
-/

namespace ObfuscationMap
namespace MappingTable

/-- Tables have the same entries exactly if the entries of each kind differ in order
alone. -/
theorem sameEntries_iff_perm (left right : MappingTable) :
    left.sameEntries right = true ↔
      left.classes.entries.Perm right.classes.entries ∧
        left.fields.entries.Perm right.fields.entries ∧
        left.methods.entries.Perm right.methods.entries := by
  simp only [sameEntries_iff, OrderedMap.sameEntries_iff_perm]

/-- A table put together from its entries in another order has the same entries. -/
theorem sameEntries_ofList
    {table : MappingTable}
    {classes : List (JavaType × JavaType)}
    {fields : List (Field × Field)}
    {methods : List (Method × Method)}
    (classesPerm : classes.Perm table.classes.entries)
    (fieldsPerm : fields.Perm table.fields.entries)
    (methodsPerm : methods.Perm table.methods.entries) :
    sameEntries
      { classes := .ofList classes, fields := .ofList fields, methods := .ofList methods }
      table = true := by
  simp only [sameEntries, OrderedMap.sameEntries_ofList classesPerm,
    OrderedMap.sameEntries_ofList fieldsPerm, OrderedMap.sameEntries_ofList methodsPerm,
    Bool.and_self]

theorem sameEntries_symm
    {left right : MappingTable}
    (same : left.sameEntries right = true) :
    right.sameEntries left = true := by
  rw [sameEntries_iff_perm] at same ⊢
  exact ⟨same.1.symm, same.2.1.symm, same.2.2.symm⟩

theorem sameEntries_trans
    {first second third : MappingTable}
    (low : first.sameEntries second = true)
    (high : second.sameEntries third = true) :
    first.sameEntries third = true := by
  rw [sameEntries_iff_perm] at low high ⊢
  exact ⟨low.1.trans high.1, low.2.1.trans high.2.1, low.2.2.trans high.2.2⟩

/-- Everything that is written by its internal name is read back. -/
structure IsWritable (table : MappingTable) : Prop where
  renamesClasses : table.RenamesClasses
  classes : ∀ entry ∈ table.classes.entries, entry.1.IsNameable ∧ entry.2.IsNameable
  fields : ∀ entry ∈ table.fields.entries,
    entry.1.owner.IsNameable ∧ entry.2.owner.IsNameable
  methods : ∀ entry ∈ table.methods.entries,
    entry.1.owner.IsNameable ∧ entry.2.owner.IsNameable

theorem isWritable_empty : empty.IsWritable where
  renamesClasses _ entryIn := absurd entryIn List.not_mem_nil
  classes _ entryIn := absurd entryIn List.not_mem_nil
  fields _ entryIn := absurd entryIn List.not_mem_nil
  methods _ entryIn := absurd entryIn List.not_mem_nil

/-- Whether a table is writable depends on its entries, not on their order. -/
theorem IsWritable.of_sameEntries
    {table other : MappingTable}
    (writable : table.IsWritable)
    (same : table.sameEntries other = true) :
    other.IsWritable := by
  obtain ⟨classes, fields, methods⟩ := (sameEntries_iff_perm table other).1 same
  constructor
  · exact fun entry entryIn => writable.renamesClasses entry (classes.mem_iff.2 entryIn)
  · exact fun entry entryIn => writable.classes entry (classes.mem_iff.2 entryIn)
  · exact fun entry entryIn => writable.fields entry (fields.mem_iff.2 entryIn)
  · exact fun entry entryIn => writable.methods entry (methods.mem_iff.2 entryIn)

/-- A writable table renames nameable types to nameable types. -/
theorem IsWritable.isNameable_renameType
    {table : MappingTable}
    (writable : table.IsWritable)
    {type : JavaType}
    (nameable : type.IsNameable) :
    (table.toRenaming.renameType type).IsNameable := by
  induction type with
  | reference old =>
      cases found : table.toRenaming.class? (.reference old) with
      | some target =>
          rw [Renaming.renameType_of_class?_eq_some found]
          have entryIn := (OrderedMap.get?_eq_some_iff _ _ _).1 found
          exact (writable.classes _ entryIn).2
      | none =>
          rw [Renaming.renameType_of_class?_none found]
          exact nameable
  | primitive kind => exact nameable
  | array element step => exact step nameable

end MappingTable
end ObfuscationMap
