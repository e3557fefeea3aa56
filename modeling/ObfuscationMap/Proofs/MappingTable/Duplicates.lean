import ObfuscationMap.MappingTable.Basic
import ObfuscationMap.Proofs.OrderedMap.Inversion
import ObfuscationMap.Proofs.Sample

/-!
# Inverting tables with repeated targets

Of the sources that share a target, inverting a table keeps the last. A second inversion
restores the entries of these sources and no others, so the table itself exactly if no
target is repeated, and a third one is the first again. The entries that are lost are those
that a later one with their target overtakes.
-/

namespace ObfuscationMap
namespace MappingTable

variable {α : Type} [DecidableEq α]

/-- What inversions of a table keep, restore and lose among its entries of one kind. -/
structure InversionLaws
    (entries : MappingTable -> OrderedMap α α)
    (count : EntryCounts -> Nat)
    (table : MappingTable) : Prop where
  /-- A target is led back to the last source that has it. -/
  once : ∀ source target, (entries table.inverse).get? target = some source ↔
    (entries table).LastSource source target
  /-- Inverting twice leaves the entries of these sources. -/
  twice : ∀ source target, (entries table.inverse.inverse).get? source = some target ↔
    (entries table).LastSource source target
  /-- This is all of them exactly if no target is repeated. -/
  restored : (entries table.inverse.inverse).sameEntries (entries table) = true ↔
    (entries table).values.Nodup
  /-- Inverting three times is inverting once. -/
  thrice : (entries table.inverse.inverse.inverse).sameEntries (entries table.inverse) = true
  /-- The entries that are lost are those that a later one with their target overtakes. -/
  lost : count table.lostByInversion = (Entries.overtaken (entries table).entries).length
  /-- No more are counted as lost than there were. -/
  accounted : (entries table.inverse).size + count table.lostByInversion =
    (entries table).size

theorem inversionLaws_of_entries_inverse
    {entries : MappingTable -> OrderedMap α α}
    {count : EntryCounts -> Nat}
    (inverts : ∀ table : MappingTable, entries table.inverse = (entries table).inverse)
    (counts : ∀ table : MappingTable, count table.lostByInversion =
      (entries table).size - (entries table).inverse.size)
    (table : MappingTable) :
    InversionLaws entries count table := by
  have balance := (entries table).size_inverse_add_length_overtaken
  have lost : count table.lostByInversion =
      (Entries.overtaken (entries table).entries).length := by
    rw [counts, ← balance, Nat.add_sub_cancel_left]
  refine ⟨?once, ?twice, ?restored, ?thrice, lost, ?accounted⟩
  case once =>
    intro source target
    rw [inverts, OrderedMap.get?_inverse_eq_some_iff, OrderedMap.mem_entries_lasting_iff]
  case twice =>
    intro source target
    have same := (entries table).sameEntries_inverse_inverse
    rw [OrderedMap.sameEntries_iff_get?] at same
    rw [inverts, inverts, same, OrderedMap.get?_eq_some_iff,
      OrderedMap.mem_entries_lasting_iff]
  case restored =>
    rw [inverts, inverts]
    exact OrderedMap.sameEntries_inverse_inverse_self_iff _
  case thrice =>
    rw [inverts, inverts, inverts, OrderedMap.sameEntries_inverse_inverse_self_iff]
    exact OrderedMap.nodup_values_inverse _
  case accounted =>
    rw [inverts, lost, balance]

/-- Inverting a table, with or without repeated targets, obeys the same laws for classes,
fields and methods. -/
theorem inversionLaws (table : MappingTable) :
    InversionLaws MappingTable.classes EntryCounts.classes table ∧
    InversionLaws MappingTable.fields EntryCounts.fields table ∧
    InversionLaws MappingTable.methods EntryCounts.methods table := by
  refine ⟨?classes, ?fields, ?methods⟩
  case classes => exact inversionLaws_of_entries_inverse (fun _ => rfl) (fun _ => rfl) table
  case fields => exact inversionLaws_of_entries_inverse (fun _ => rfl) (fun _ => rfl) table
  case methods => exact inversionLaws_of_entries_inverse (fun _ => rfl) (fun _ => rfl) table

/-- Two classes with one new name, and another one between them. -/
def contestedTable : MappingTable where
  classes := .ofList [
    (.ofLetter 'a', .ofLetter 's'), (.ofLetter 'b', .ofLetter 't'),
    (.ofLetter 'c', .ofLetter 's')]

/-- The later of the two has the name in the inverse, and the earlier is lost. -/
example :
    ¬contestedTable.classes.LastSource (.ofLetter 'a') (.ofLetter 's') ∧
    contestedTable.classes.LastSource (.ofLetter 'c') (.ofLetter 's') ∧
    contestedTable.lostByInversion = ⟨1, 0, 0⟩ := by
  decide

end MappingTable
end ObfuscationMap
