import ObfuscationMap.Proofs.Chain.Kinds
import ObfuscationMap.Proofs.Chain.TwoTables

/-!
# Where the members of a chain come from

An entry that a chain has stays, and each later layer renames its target. A source that is
not in the chain yet comes in with the last new entry of a layer that is led back to it. So
the chain loses no member, and it has none without an entry of a layer behind it.
-/

namespace ObfuscationMap

/-- What stands after an element in a part of a list without repetitions is what stands
after it in the list and is in the part. -/
theorem exists_split_iff_of_sublist
    {α : Type}
    {part whole : List α}
    (sub : part.Sublist whole)
    (distinct : whole.Nodup)
    (element : α)
    (holds : α -> Prop) :
    (∃ earlier later, part = earlier ++ element :: later ∧ ∀ other ∈ later, holds other) ↔
      element ∈ part ∧ ∃ earlier later, whole = earlier ++ element :: later ∧
        ∀ other ∈ later, other ∈ part -> holds other := by
  have splitWhole : ∀ earlier later, part = earlier ++ element :: later ->
      ∃ before after, whole = before ++ element :: after ∧ earlier.Sublist before ∧
        later.Sublist after := by
    rintro earlier later rfl
    obtain ⟨before, rest, rfl, inBefore, inRest⟩ := List.append_sublist_iff.1 sub
    obtain ⟨here, after, rfl, elementIn, inAfter⟩ := List.cons_sublist_iff.1 inRest
    obtain ⟨left, right, rfl⟩ := List.append_of_mem elementIn
    refine ⟨before ++ left, right ++ after, by simp, ?_, ?_⟩
    · exact inBefore.trans (List.sublist_append_left before left)
    · exact inAfter.trans (List.sublist_append_right right after)
  constructor
  · rintro ⟨earlier, later, split, afterwards⟩
    obtain ⟨before, after, wholeSplit, inBefore, -⟩ := splitWhole earlier later split
    refine ⟨by simp [split], before, after, wholeSplit, ?_⟩
    intro other otherIn inPart
    rw [wholeSplit, List.nodup_append, List.nodup_cons] at distinct
    rw [split, List.mem_append, List.mem_cons] at inPart
    rcases inPart with old | rfl | new
    · exact absurd rfl (distinct.2.2 other (inBefore.subset old) other
        (List.mem_cons_of_mem element otherIn))
    · exact absurd otherIn distinct.2.1.1
    · exact afterwards other new
  · rintro ⟨elementIn, before, after, wholeSplit, afterwards⟩
    obtain ⟨earlier, later, split⟩ := List.append_of_mem elementIn
    obtain ⟨left, right, otherSplit, -, inRight⟩ := splitWhole earlier later split
    -- The element stands at one place of the list alone.
    rw [wholeSplit, List.nodup_append, List.nodup_cons] at distinct
    have notBefore : element ∉ before := fun elementIn =>
      distinct.2.2 element elementIn element List.mem_cons_self rfl
    rw [wholeSplit, List.append_cons_inj_of_notMem notBefore distinct.2.1.1] at otherSplit
    obtain ⟨rfl, -, rfl⟩ := otherSplit
    refine ⟨earlier, later, split, fun other otherIn => ?_⟩
    exact afterwards other (inRight.subset otherIn) (by simp [split, otherIn])

namespace EntryKind

variable {α : Type} [DecidableEq α]

/-- An entry of a layer supplies a source of the longer chain: among the new entries of the
layer it is the last that is led back to the source. -/
structure Supplies
    (kind : EntryKind α)
    (before : List Layer)
    (layer : Layer)
    (source other target : α) : Prop where
  ledBack : kind.leadBack before other = source
  isNew : kind.IsNew before layer (other, target)
  last : ∃ earlier later,
    (kind.entries layer.entries).entries = earlier ++ (other, target) :: later ∧
      ∀ entry ∈ later, kind.IsNew before layer entry ->
        kind.leadBack before entry.1 ≠ source

variable (kind : EntryKind α)

/-- What a layer brings for a source is the target of the entry that supplies it. -/
theorem get?_brought_eq_some_iff
    (before : List Layer)
    (layer : Layer)
    (source target : α) :
    (kind.brought before layer).get? source = some target ↔
      ∃ other, kind.Supplies before layer source other target := by
  have position (other : α) := exists_split_iff_of_sublist
    (Chain.unclaimed_sublist (kind.entries layer.entries).entries
      (kind.claimed (Chain.ofLayers before)))
    (kind.entries layer.entries).nodup_entries (other, target)
    fun entry => kind.leadBack before entry.1 ≠ source
  simp only [mem_unclaimed_iff_isNew] at position
  rw [brought, Chain.get?_own, Entries.find?_reverse_map_key_eq_some_iff]
  constructor
  · rintro ⟨earlier, other, later, split, led, elsewhere⟩
    obtain ⟨isNew, last⟩ := (position other).1 ⟨earlier, later, split, elsewhere⟩
    exact ⟨other, led, isNew, last⟩
  · rintro ⟨other, led, isNew, last⟩
    obtain ⟨earlier, later, split, elsewhere⟩ := (position other).2 ⟨isNew, last⟩
    exact ⟨earlier, other, later, split, led, elsewhere⟩

/-- A source that a chain does not have comes into the longer chain with the entry that
supplies it. -/
theorem get?_chain_eq_some_iff_of_not_mem_keys
    {before : List Layer}
    {layer : Layer}
    {source : α}
    (newSource : source ∉ (kind.entries (chain before)).keys)
    (target : α) :
    (kind.entries (chain (before ++ [layer]))).get? source = some target ↔
      ∃ other, kind.Supplies before layer source other target := by
  rw [get?_chain_append_singleton, (OrderedMap.get?_eq_none_iff _ _).2 newSource,
    Option.map_none, Option.none_or, get?_brought_eq_some_iff]

end EntryKind

namespace Chain

/-- A chain keeps every member entry and has its target renamed by the later layers in turn.
A member that the chain does not have yet comes in with exactly the target of the last new
entry of the next layer that is led back to it. -/
theorem members_chain_provenance (before : List Layer) :
    ((∀ field target, (chain before).fields.get? field = some target ->
      ∀ after, (chain (before ++ after)).fields.get? field =
        some (inTurn (fun layer => layer.toRenaming.renameField) after target)) ∧
    (∀ layer, ∀ field ∉ (chain before).fields.keys, ∀ target,
      (chain (before ++ [layer])).fields.get? field = some target ↔
        ∃ other, EntryKind.fields.Supplies before layer field other target)) ∧
    ((∀ method target, (chain before).methods.get? method = some target ->
      ∀ after, (chain (before ++ after)).methods.get? method =
        some (inTurn (fun layer => layer.toRenaming.renameMethod) after target)) ∧
    (∀ layer, ∀ method ∉ (chain before).methods.keys, ∀ target,
      (chain (before ++ [layer])).methods.get? method = some target ↔
        ∃ other, EntryKind.methods.Supplies before layer method other target)) := by
  refine ⟨⟨?fieldsKept, ?fieldsSupplied⟩, ?methodsKept, ?methodsSupplied⟩
  case fieldsKept =>
    exact fun field target found => EntryKind.fields.get?_chain_append found
  case fieldsSupplied =>
    exact fun layer field newField =>
      EntryKind.fields.get?_chain_eq_some_iff_of_not_mem_keys newField
  case methodsKept =>
    exact fun method target found => EntryKind.methods.get?_chain_append found
  case methodsSupplied =>
    exact fun layer method newMethod =>
      EntryKind.methods.get?_chain_eq_some_iff_of_not_mem_keys newMethod

/-- A table that names one field of the lower table's class both by its renamed and by its
old name. -/
def collidingTable : MappingTable where
  fields := .ofList [
    (⟨.ofLetter 'b', .ofLetter 'x'⟩, ⟨.ofLetter 'b', .ofLetter 'y'⟩),
    (⟨.ofLetter 'a', .ofLetter 'x'⟩, ⟨.ofLetter 'b', .ofLetter 'z'⟩)]

/-- The method of the lower table goes through both later tables. The field comes in with
the second of the two entries that are led back to it. -/
theorem members_chain_provenance_collidingTable :
    (chain [.stored lowerTable]).methods.get?
        (.onto (.ofLetter 'a') (.ofLetter 'f') (.ofLetter 'c')) =
      some (.onto (.ofLetter 'b') (.ofLetter 'g') (.ofLetter 'd')) ∧
    (chain [.stored lowerTable, .stored collidingTable, .stored upperTable]).methods.get?
        (.onto (.ofLetter 'a') (.ofLetter 'f') (.ofLetter 'c')) =
      some (.onto (.ofLetter 'e') (.ofLetter 'g') (.ofLetter 'd')) ∧
    ⟨.ofLetter 'a', .ofLetter 'x'⟩ ∉ (chain [.stored lowerTable]).fields.keys ∧
    EntryKind.fields.Supplies [.stored lowerTable] (.stored collidingTable)
      ⟨.ofLetter 'a', .ofLetter 'x'⟩ ⟨.ofLetter 'a', .ofLetter 'x'⟩
      ⟨.ofLetter 'b', .ofLetter 'z'⟩ ∧
    (chain [.stored lowerTable, .stored collidingTable]).fields.get?
        ⟨.ofLetter 'a', .ofLetter 'x'⟩ = some ⟨.ofLetter 'b', .ofLetter 'z'⟩ := by
  obtain ⟨⟨-, fieldsSupplied⟩, methodsKept, -⟩ :=
    members_chain_provenance [.stored lowerTable]
  have found : (chain [.stored lowerTable]).methods.get?
      (.onto (.ofLetter 'a') (.ofLetter 'f') (.ofLetter 'c')) =
        some (.onto (.ofLetter 'b') (.ofLetter 'g') (.ofLetter 'd')) := by decide
  have newField : ⟨.ofLetter 'a', .ofLetter 'x'⟩ ∉
      (chain [.stored lowerTable]).fields.keys := by decide
  have supplies : EntryKind.fields.Supplies [.stored lowerTable] (.stored collidingTable)
      ⟨.ofLetter 'a', .ofLetter 'x'⟩ ⟨.ofLetter 'a', .ofLetter 'x'⟩
      ⟨.ofLetter 'b', .ofLetter 'z'⟩ := by
    refine ⟨by decide, ⟨⟨[_], [], rfl, by decide⟩, by decide⟩, [_], [], rfl, ?_⟩
    exact fun entry entryIn => absurd entryIn List.not_mem_nil
  refine ⟨found, ?kept, newField, supplies, (fieldsSupplied _ _ newField _).2 ⟨_, supplies⟩⟩
  case kept =>
    have turned := methodsKept _ _ found [.stored collidingTable, .stored upperTable]
    exact turned.trans (by decide)

end Chain
end ObfuscationMap
