import ObfuscationMap.Proofs.Chain.ClosedForm
import ObfuscationMap.Proofs.Chain.Provenance

/-!
# Chaining in steps

A chain can be stored as a table, and the table can start a longer chain in place of its
layers. The table claims only the targets that are left of those its layers have claimed,
so the later layers must bring none of the others. Then they bring the same entries either
way, and the two chains are one table.
-/

namespace ObfuscationMap

namespace EntryKind

variable {α : Type} [DecidableEq α] (kind : EntryKind α)

/-- A layer makes the same of two chains that are one table, if the same of its targets are
claimed in both. -/
theorem entries_chain_append_singleton_congr
    {left right : List Layer}
    {layer : Layer}
    (same : chain left = chain right)
    (claims : ∀ target ∈ (kind.entries layer.entries).values,
      (∃ other ∈ left, target ∈ (kind.entries other.entries).values) ↔
        ∃ other ∈ right, target ∈ (kind.entries other.entries).values) :
    kind.entries (chain (left ++ [layer])) = kind.entries (chain (right ++ [layer])) := by
  simp only [← mem_claimed_iff] at claims
  have brought : kind.brought left layer = kind.brought right layer := by
    rw [brought, brought, leadBack, leadBack, same, Chain.own, Chain.own,
      Chain.unclaimed_congr claims]
  rw [entries_chain_append_singleton, entries_chain_append_singleton, same, brought]

/-- Layers claim no target that none of them has. -/
theorem exists_mem_values_append_iff
    {before after : List Layer}
    {target : α}
    (apart : ∀ earlier ∈ before, target ∉ (kind.entries earlier.entries).values) :
    (∃ other ∈ before ++ after, target ∈ (kind.entries other.entries).values) ↔
      ∃ other ∈ after, target ∈ (kind.entries other.entries).values := by
  constructor
  · rintro ⟨other, otherIn, claimed⟩
    rcases List.mem_append.1 otherIn with old | new
    · exact absurd claimed (apart other old)
    · exact ⟨other, new, claimed⟩
  · rintro ⟨other, otherIn, claimed⟩
    exact ⟨other, List.mem_append_right before otherIn, claimed⟩

/-- A layer that lists no target of a chain and of its layers makes the same of the stored
chain as of the layers. -/
theorem entries_chain_stored_append_singleton
    {before after : List Layer}
    {layer : Layer}
    (same : chain (.stored (chain before) :: after) = chain (before ++ after))
    (stored : ∀ target ∈ (kind.entries layer.entries).values,
      target ∉ (kind.entries (chain before)).values)
    (listed : ∀ earlier ∈ before, ∀ target ∈ (kind.entries layer.entries).values,
      target ∉ (kind.entries earlier.entries).values) :
    kind.entries (chain (.stored (chain before) :: after ++ [layer])) =
      kind.entries (chain (before ++ after ++ [layer])) := by
  apply kind.entries_chain_append_singleton_congr same
  intro target targetIn
  -- In either chain the layers in between alone can have claimed the target.
  have fromLayers : ∀ earlier ∈ before, target ∉ (kind.entries earlier.entries).values :=
    fun earlier earlierIn => listed earlier earlierIn target targetIn
  have fromChain : ∀ earlier ∈ [Layer.stored (chain before)],
      target ∉ (kind.entries earlier.entries).values := by
    intro earlier earlierIn
    rw [List.mem_singleton.1 earlierIn]
    exact stored target targetIn
  rw [kind.exists_mem_values_append_iff fromLayers]
  exact kind.exists_mem_values_append_iff fromChain

end EntryKind

namespace Chain

/-- A chain of layers can be stored and go on as the first layer of a chain, if no target
occurs twice in it and the later layers have none of its targets and none of those of its
layers. The outcome is the chain of all layers, with its entries in the same order. -/
theorem chain_stored_chain_append
    {before after : List Layer}
    (distinct : (chain before).DistinctTargets)
    (apart : ∀ later ∈ after, (chain before).DisjointTargets later.entries ∧
      ∀ earlier ∈ before, earlier.entries.DisjointTargets later.entries) :
    chain (.stored (chain before) :: after) = chain (before ++ after) := by
  induction after using List.reverseRecOn with
  | nil => rw [List.append_nil, chain_singleton distinct]
  | append_singleton after layer step =>
      have same := step fun later laterIn => apart later (List.mem_append_left _ laterIn)
      obtain ⟨fromChain, fromLayers⟩ := apart layer (by simp)
      rw [← List.cons_append, ← List.append_assoc]
      apply MappingTable.ext
      · exact EntryKind.classes.entries_chain_stored_append_singleton same
          fromChain.classes fun earlier earlierIn => (fromLayers earlier earlierIn).classes
      · exact EntryKind.fields.entries_chain_stored_append_singleton same
          fromChain.fields fun earlier earlierIn => (fromLayers earlier earlierIn).fields
      · exact EntryKind.methods.entries_chain_stored_append_singleton same
          fromChain.methods fun earlier earlierIn => (fromLayers earlier earlierIn).methods

/-- The stored chain has only one of the two targets that its layers list for one field. A
table and package moves follow it. -/
theorem chain_stored_chain_append_collidingTable :
    (chain [.stored lowerTable, .stored collidingTable]).DistinctTargets ∧
    (∀ later ∈ [Layer.stored upperTable, packingLayer],
      (chain [.stored lowerTable, .stored collidingTable]).DisjointTargets later.entries ∧
      ∀ earlier ∈ [Layer.stored lowerTable, .stored collidingTable],
        earlier.entries.DisjointTargets later.entries) ∧
    chain [.stored (chain [.stored lowerTable, .stored collidingTable]),
        .stored upperTable, packingLayer] =
      chain [.stored lowerTable, .stored collidingTable, .stored upperTable, packingLayer] := by
  have distinct : (chain [.stored lowerTable, .stored collidingTable]).DistinctTargets :=
    ⟨by decide, by decide, by decide⟩
  have apart : ∀ later ∈ [Layer.stored upperTable, packingLayer],
      (chain [.stored lowerTable, .stored collidingTable]).DisjointTargets later.entries ∧
      ∀ earlier ∈ [Layer.stored lowerTable, .stored collidingTable],
        earlier.entries.DisjointTargets later.entries := by
    simp only [List.forall_mem_cons, List.not_mem_nil, IsEmpty.forall_iff, implies_true,
      and_true]
    refine ⟨⟨?_, ?_, ?_⟩, ?_, ?_, ?_⟩ <;> exact ⟨by decide, by decide, by decide⟩
  exact ⟨distinct, apart, chain_stored_chain_append distinct apart⟩

end Chain
end ObfuscationMap
