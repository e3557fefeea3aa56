import ObfuscationMap.Proofs.Chain.Additions

/-!
# The chain of one table

The chain of one table keeps the first of the entries with one target, as inverting a table
keeps the last. All targets are left, but a source whose target an earlier one has is lost.
The chain is therefore the table itself exactly if no target is repeated.
-/

namespace ObfuscationMap

namespace OrderedMap

variable {α : Type} [DecidableEq α]

/-- The entries of a map whose target no earlier entry has. -/
def leading (map : OrderedMap α α) : OrderedMap α α where
  entries := Chain.unclaimed map.entries []
  distinct := map.distinct.sublist ((Chain.unclaimed_sublist map.entries []).map Prod.fst)

/-- A source is the first in order that a map leads to a target. -/
def FirstSource (map : OrderedMap α α) (source target : α) : Prop :=
  ∃ earlier later, map.entries = earlier ++ (source, target) :: later ∧
    target ∉ earlier.map Prod.snd

theorem get?_leading_eq_some_iff (map : OrderedMap α α) (source target : α) :
    map.leading.get? source = some target ↔ map.FirstSource source target := by
  rw [get?_eq_some_iff, leading, Chain.mem_unclaimed_iff]
  simp only [List.not_mem_nil, not_false_eq_true, true_and]
  rfl

instance (map : OrderedMap α α) (source target : α) :
    Decidable (map.FirstSource source target) :=
  decidable_of_iff _ (map.get?_leading_eq_some_iff source target)

theorem FirstSource.get?_eq_some
    {map : OrderedMap α α}
    {source target : α}
    (first : map.FirstSource source target) :
    map.get? source = some target := by
  obtain ⟨earlier, later, split, -⟩ := first
  rw [get?_eq_some_iff, split]
  exact List.mem_append_right _ List.mem_cons_self

theorem mem_values_leading_iff (map : OrderedMap α α) (target : α) :
    target ∈ map.leading.values ↔ target ∈ map.values :=
  (Chain.mem_targets_unclaimed_iff target map.entries []).trans
    (and_iff_left List.not_mem_nil)

theorem nodup_values_leading (map : OrderedMap α α) : map.leading.values.Nodup :=
  Chain.nodup_targets_unclaimed map.entries []

theorem leading_eq_self_of_nodup
    {map : OrderedMap α α}
    (distinct : map.values.Nodup) :
    map.leading = map :=
  ext _ _ (Chain.unclaimed_eq_self distinct fun _ _ => List.not_mem_nil)

/-- No source is lost exactly if no target is repeated. -/
theorem mem_keys_leading_iff (map : OrderedMap α α) :
    (∀ source, source ∈ map.leading.keys ↔ source ∈ map.keys) ↔ map.values.Nodup := by
  constructor
  · intro kept
    have leads : ∀ source target, map.get? source = some target ->
        map.leading.get? source = some target := by
      intro source target found
      have key := (kept source).2 (mem_keys_of_get?_eq_some found)
      obtain ⟨other, led⟩ := (mem_keys_iff _ source).1 key
      have same := ((map.get?_leading_eq_some_iff source other).1 led).get?_eq_some
      rw [led, ← same, found]
    apply nodup_values_of_source_unique
    intro left right target leftFound rightFound
    exact source_unique map.nodup_values_leading (leads left target leftFound)
      (leads right target rightFound)
  · intro distinct source
    rw [leading_eq_self_of_nodup distinct]

theorem sameEntries_leading_iff (map : OrderedMap α α) :
    map.leading.sameEntries map = true ↔ map.values.Nodup := by
  constructor
  · intro same
    rw [sameEntries_iff_get?] at same
    exact map.mem_keys_leading_iff.1 (mem_keys_congr same)
  · intro distinct
    rw [leading_eq_self_of_nodup distinct, sameEntries_iff_get?]
    exact fun _ => rfl

end OrderedMap

namespace TableKind

variable {α : Type} [DecidableEq α]

/-- The chain of one table has the first of the entries with one target. -/
theorem entries_chain_stored (kind : TableKind α) (table : MappingTable) :
    kind.entries (chain [.stored table]) = (kind.entries table).leading := by
  have nothing : kind.entries (chain []) = ∅ := kind.entries_empty
  have unclaimed : kind.claimed (Chain.ofLayers []) = [] := kind.claimed_empty
  have alone := kind.entries_chain_append_singleton [] (.stored table)
  rw [List.nil_append, nothing, EntryKind.brought, unclaimed] at alone
  rw [alone]
  apply OrderedMap.ext
  exact Chain.entries_own_of_still kind.rename_inverse_empty [] (kind.entries table)

/-- The chain of one table has all targets of the table. -/
theorem mem_values_chain_stored (kind : TableKind α) (table : MappingTable) (target : α) :
    target ∈ (kind.entries (chain [.stored table])).values ↔
      target ∈ (kind.entries table).values := by
  rw [kind.entries_chain_stored, OrderedMap.mem_values_leading_iff]

end TableKind
end ObfuscationMap
