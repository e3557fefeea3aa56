import ObfuscationMap.Chain.Basic
import ObfuscationMap.Proofs.MappingTable.Inverse

/-!
# What a chain finds after one more layer

A layer brings the entries whose target is the first of its kind, with their
sources led back, and the last of those that are led back to a source stands. An
entry that the chain already had wins over them. A chain of layers therefore looks
a source up among its own earlier entries first.
-/

namespace ObfuscationMap

/-- A layer has class entries between classes alone, and it renames classes to classes. -/
structure Layer.KeepsClasses (layer : Layer) : Prop where
  entries : layer.entries.RenamesClasses
  renamed : ∀ {type : JavaType}, type.isClass = true ->
    (layer.toRenaming.renameType type).isClass = true

theorem MappingTable.RenamesClasses.keepsClasses
    {table : MappingTable}
    (renamesClasses : table.RenamesClasses) :
    (Layer.stored table).KeepsClasses where
  entries := renamesClasses
  renamed := renamesClasses.isClass_renameType

namespace Chain

section Unclaimed

variable {α : Type} [DecidableEq α]

/-- An entry is taken over exactly if its target is not claimed and no earlier
entry of the list has it. -/
theorem mem_unclaimed_iff
    (entry : α × α)
    (entries : List (α × α))
    (claimed : List α) :
    entry ∈ unclaimed entries claimed ↔
      ∃ earlier later, entries = earlier ++ entry :: later ∧
        entry.2 ∉ claimed ∧ entry.2 ∉ earlier.map Prod.snd := by
  induction entries generalizing claimed with
  | nil => simp [unclaimed]
  | cons first rest step =>
      rw [unclaimed]
      constructor
      · intro taken
        by_cases refused : first.2 ∈ claimed
        · rw [if_pos refused, step] at taken
          obtain ⟨earlier, later, rfl, free, new⟩ := taken
          refine ⟨first :: earlier, later, rfl, free, ?_⟩
          rw [List.map_cons, List.mem_cons, not_or]
          exact ⟨fun same => free (same ▸ refused), new⟩
        · rw [if_neg refused, List.mem_cons, step] at taken
          obtain rfl | ⟨earlier, later, rfl, free, new⟩ := taken
          · exact ⟨[], rest, rfl, refused, List.not_mem_nil⟩
          · rw [List.mem_cons, not_or] at free
            refine ⟨first :: earlier, later, rfl, free.2, ?_⟩
            rw [List.map_cons, List.mem_cons, not_or]
            exact ⟨free.1, new⟩
      · rintro ⟨earlier, later, split, free, new⟩
        cases earlier with
        | nil =>
            obtain ⟨rfl, rfl⟩ := List.cons.inj split
            rw [if_neg free]
            exact List.mem_cons_self
        | cons head earlier =>
            obtain ⟨rfl, rfl⟩ := List.cons.inj split
            rw [List.map_cons, List.mem_cons, not_or] at new
            by_cases refused : first.2 ∈ claimed
            · rw [if_pos refused, step]
              exact ⟨earlier, later, rfl, free, new.2⟩
            · rw [if_neg refused, List.mem_cons, step]
              refine .inr ⟨earlier, later, rfl, ?_, new.2⟩
              rw [List.mem_cons, not_or]
              exact ⟨new.1, free⟩

theorem unclaimed_sublist (entries : List (α × α)) (claimed : List α) :
    (unclaimed entries claimed).Sublist entries := by
  induction entries generalizing claimed with
  | nil => exact List.Sublist.refl []
  | cons first rest step =>
      rw [unclaimed]
      split
      · exact (step claimed).cons first
      · exact (step (first.2 :: claimed)).cons_cons first

theorem unclaimed_subset (entries : List (α × α)) (claimed : List α) :
    unclaimed entries claimed ⊆ entries :=
  (unclaimed_sublist entries claimed).subset

/-- Every target that is not claimed is taken over with its first entry. -/
theorem mem_targets_unclaimed_iff
    (target : α)
    (entries : List (α × α))
    (claimed : List α) :
    target ∈ (unclaimed entries claimed).map Prod.snd ↔
      target ∈ entries.map Prod.snd ∧ target ∉ claimed := by
  induction entries generalizing claimed with
  | nil => simp [unclaimed]
  | cons first rest step =>
      rw [unclaimed]
      by_cases refused : first.2 ∈ claimed
      · rw [if_pos refused, step, List.map_cons, List.mem_cons]
        constructor
        · exact fun taken => ⟨.inr taken.1, taken.2⟩
        · rintro ⟨rfl | later, free⟩
          · exact absurd refused free
          · exact ⟨later, free⟩
      · rw [if_neg refused, List.map_cons, List.mem_cons, step, List.map_cons,
          List.mem_cons, List.mem_cons, not_or]
        by_cases same : target = first.2
        · simp [same, refused]
        · simp [same]

theorem nodup_targets_unclaimed (entries : List (α × α)) (claimed : List α) :
    ((unclaimed entries claimed).map Prod.snd).Nodup := by
  induction entries generalizing claimed with
  | nil => exact List.nodup_nil
  | cons first rest step =>
      rw [unclaimed]
      split
      · exact step claimed
      · rw [List.map_cons, List.nodup_cons]
        -- The target of the first entry is claimed in the rest.
        refine ⟨fun again => ?_, step (first.2 :: claimed)⟩
        exact ((mem_targets_unclaimed_iff _ _ _).1 again).2 List.mem_cons_self

/-- Entries with distinct targets that are all free are taken over as they are. -/
theorem unclaimed_eq_self
    {entries : List (α × α)}
    {claimed : List α}
    (distinct : (entries.map Prod.snd).Nodup)
    (free : ∀ target ∈ entries.map Prod.snd, target ∉ claimed) :
    unclaimed entries claimed = entries := by
  induction entries generalizing claimed with
  | nil => rfl
  | cons first rest step =>
      rw [List.map_cons, List.nodup_cons] at distinct
      rw [unclaimed, if_neg (free first.2 List.mem_cons_self), step distinct.2]
      intro target targetIn
      rw [List.mem_cons, not_or]
      exact ⟨fun same => distinct.1 (same ▸ targetIn),
        free target (List.mem_cons_of_mem _ targetIn)⟩

end Unclaimed

section Lookup

variable {α : Type} [DecidableEq α]

/-- The chain's entry for a source wins over the layer's own. -/
theorem get?_carry
    (rename : α -> α)
    (chained own : OrderedMap α α)
    (source : α) :
    (carry rename chained own).get? source =
      ((chained.get? source).map rename).or (own.get? source) := by
  rw [carry, OrderedMap.get?_insertAll, ← List.map_reverse, Entries.find?_map_value,
    Entries.find?_reverse source chained.entries chained.distinct]
  rfl

theorem get?_own
    (leadBack : α -> α)
    (claimed : List α)
    (layer : OrderedMap α α)
    (source : α) :
    (own leadBack claimed layer).get? source =
      Entries.find? source
        (((unclaimed layer.entries claimed).map fun entry =>
          (leadBack entry.1, entry.2)).reverse) := by
  rw [own, OrderedMap.get?_ofList]

/-- A layer without led back sources brings its unclaimed entries as they are. -/
theorem entries_own_of_still
    {leadBack : α -> α}
    (still : ∀ source, leadBack source = source)
    (claimed : List α)
    (layer : OrderedMap α α) :
    (own leadBack claimed layer).entries = unclaimed layer.entries claimed := by
  have same : ((unclaimed layer.entries claimed).map fun entry =>
      (leadBack entry.1, entry.2)) = unclaimed layer.entries claimed := by
    simp [still]
  have distinct : (Entries.keys (unclaimed layer.entries claimed)).Nodup :=
    layer.distinct.sublist ((unclaimed_sublist _ _).map Prod.fst)
  rw [own, same]
  exact OrderedMap.entries_insertAll_of_distinct OrderedMap.empty _ distinct

theorem carry_congr
    {left right : α -> α}
    {chained own : OrderedMap α α}
    (agree : ∀ target ∈ chained.values, left target = right target) :
    carry left chained own = carry right chained own := by
  have same : (chained.entries.map fun entry => (entry.1, left entry.2)) =
      chained.entries.map fun entry => (entry.1, right entry.2) := by
    apply List.map_congr_left
    intro entry entryIn
    rw [agree entry.2 (List.mem_map_of_mem entryIn)]
  rw [carry, carry, same]

theorem own_congr
    {left right : α -> α}
    {claimed : List α}
    {layer : OrderedMap α α}
    (agree : ∀ source ∈ layer.keys, left source = right source) :
    own left claimed layer = own right claimed layer := by
  have same : ((unclaimed layer.entries claimed).map fun entry => (left entry.1, entry.2)) =
      (unclaimed layer.entries claimed).map fun entry => (right entry.1, entry.2) := by
    apply List.map_congr_left
    intro entry taken
    rw [agree entry.1 (List.mem_map_of_mem (unclaimed_subset _ _ taken))]
  rw [own, own, same]

/-- A chain is carried on through a layer without entries as it is. -/
theorem carry_own_empty
    (leadBack rename : α -> α)
    (claimed : List α)
    (chained : OrderedMap α α) :
    carry rename chained (own leadBack claimed ∅) =
      chained.mapValues fun _ target => rename target := by
  have carried := OrderedMap.mapValues_insertAll (fun _ target => rename target)
    OrderedMap.empty chained.entries
  rw [← OrderedMap.ofList, OrderedMap.ofList_entries] at carried
  exact carried.symm

/-- A layer keeps what holds of its entries, led back, and of the chain's, carried on. -/
theorem forall_entries_carry
    {holds : α × α -> Prop}
    {leadBack rename : α -> α}
    {claimed : List α}
    {layer chained : OrderedMap α α}
    (brought : ∀ entry ∈ layer.entries, holds (leadBack entry.1, entry.2))
    (carried : ∀ entry ∈ chained.entries, holds (entry.1, rename entry.2)) :
    ∀ entry ∈ (carry rename chained (own leadBack claimed layer)).entries, holds entry := by
  apply OrderedMap.forall_entries_insertAll
  · intro entry entryIn
    obtain ⟨other, taken, rfl⟩ :=
      List.mem_map.1 (OrderedMap.mem_of_mem_entries_ofList entryIn)
    exact brought other (unclaimed_subset _ _ taken)
  · intro entry entryIn
    obtain ⟨other, otherIn, rfl⟩ := List.mem_map.1 entryIn
    exact carried other otherIn

/-- The sources of a longer chain are those of the chain before and what the sources of the
layer are led back to. -/
theorem mem_keys_carry
    {leadBack rename : α -> α}
    {claimed : List α}
    {layer chained : OrderedMap α α}
    {source : α}
    (key : source ∈ (carry rename chained (own leadBack claimed layer)).keys) :
    source ∈ chained.keys ∨ ∃ other ∈ layer.keys, leadBack other = source := by
  have kept : ∀ entry ∈ (carry rename chained (own leadBack claimed layer)).entries,
      entry.1 ∈ chained.keys ∨ ∃ other ∈ layer.keys, leadBack other = entry.1 := by
    apply forall_entries_carry
    · intro entry entryIn
      exact .inr ⟨entry.1, List.mem_map_of_mem entryIn, rfl⟩
    · intro entry entryIn
      exact .inl (List.mem_map.2 ⟨entry, entryIn, rfl⟩)
  obtain ⟨entry, entryIn, rfl⟩ := List.mem_map.1 key
  exact kept entry entryIn

theorem mem_keys_carry_of_mem_keys
    {rename : α -> α}
    {own chained : OrderedMap α α}
    {source : α}
    (key : source ∈ chained.keys) :
    source ∈ (carry rename chained own).keys := by
  obtain ⟨target, found⟩ := (OrderedMap.mem_keys_iff _ _).1 key
  refine (OrderedMap.mem_keys_iff _ _).2 ⟨rename target, ?_⟩
  rw [get?_carry, found]
  rfl

/-- What a layer brings is one of its unclaimed entries, led back. -/
theorem exists_of_get?_own
    {leadBack : α -> α}
    {claimed : List α}
    {layer : OrderedMap α α}
    {source target : α}
    (found : (own leadBack claimed layer).get? source = some target) :
    ∃ other, (other, target) ∈ unclaimed layer.entries claimed ∧
      leadBack other = source := by
  rw [get?_own] at found
  have present := Entries.mem_of_find?_eq_some found
  rw [List.mem_reverse, List.mem_map] at present
  obtain ⟨⟨other, value⟩, taken, same⟩ := present
  obtain ⟨led, rfl⟩ := Prod.mk.inj same
  exact ⟨other, taken, led⟩

/-- A layer brings an unclaimed entry whose source alone is led back where it is. -/
theorem get?_own_of_unique
    {leadBack : α -> α}
    {claimed : List α}
    {layer : OrderedMap α α}
    {source target : α}
    (taken : (source, target) ∈ unclaimed layer.entries claimed)
    (unique : ∀ other ∈ layer.keys, leadBack other = leadBack source -> other = source) :
    (own leadBack claimed layer).get? (leadBack source) = some target := by
  rw [get?_own]
  apply Entries.find?_eq_some_of_unique
  · rw [List.mem_reverse]
    exact List.mem_map_of_mem (f := fun entry => (leadBack entry.1, entry.2)) taken
  · intro other present
    rw [List.mem_reverse, List.mem_map] at present
    obtain ⟨⟨rival, value⟩, rivalTaken, same⟩ := present
    obtain ⟨led, rfl⟩ := Prod.mk.inj same
    have rivalIn := unclaimed_subset _ _ rivalTaken
    have rivalKey : rival ∈ layer.keys := List.mem_map_of_mem (f := Prod.fst) rivalIn
    obtain rfl := unique rival rivalKey led
    rw [← OrderedMap.get?_eq_some_iff] at rivalIn
    have sourceIn := unclaimed_subset _ _ taken
    rw [← OrderedMap.get?_eq_some_iff, rivalIn] at sourceIn
    exact Option.some.inj sourceIn

/-- A layer whose sources follow the inverse of the chain brings, for a source that the
chain does not have, its unclaimed entry for the source itself, if the chain does not
produce it. -/
theorem get?_own_eq_some_iff_of_follow_inverse
    {leadBack : α -> α}
    {claimed : List α}
    {layer chained : OrderedMap α α}
    (leads : ∀ other ∈ layer.keys, leadBack other = chained.inverse.follow other)
    {source : α}
    (newSource : source ∉ chained.keys)
    (target : α) :
    (own leadBack claimed layer).get? source = some target ↔
      source ∉ chained.values ∧ (source, target) ∈ unclaimed layer.entries claimed := by
  have stays : ∀ other ∈ layer.keys, leadBack other = source ->
      source ∉ chained.values ∧ other = source := by
    intro other otherKey led
    rw [leads other otherKey] at led
    rcases chained.follow_inverse other with old | ⟨unproduced, still⟩
    · exact absurd (led ▸ old) newSource
    · obtain rfl := still.symm.trans led
      exact ⟨unproduced, rfl⟩
  constructor
  · intro found
    obtain ⟨other, taken, led⟩ := exists_of_get?_own found
    have otherKey : other ∈ layer.keys :=
      List.mem_map_of_mem (f := Prod.fst) (unclaimed_subset _ _ taken)
    obtain ⟨unproduced, rfl⟩ := stays other otherKey led
    exact ⟨unproduced, taken⟩
  · rintro ⟨unproduced, taken⟩
    have sourceKey : source ∈ layer.keys :=
      List.mem_map_of_mem (f := Prod.fst) (unclaimed_subset _ _ taken)
    have unled := (OrderedMap.get?_inverse_eq_none_iff chained source).2 unproduced
    have still : leadBack source = source := by
      rw [leads source sourceKey, OrderedMap.follow_of_get?_eq_none unled]
    have unique : ∀ other ∈ layer.keys, leadBack other = leadBack source -> other = source :=
      fun other otherKey led => (stays other otherKey (led.trans still)).2
    have brought := get?_own_of_unique taken unique
    rwa [still] at brought

end Lookup

/-- A layer keeps the class entries of a chain between classes, if its own are so and it
renames the targets of the chain to classes. -/
theorem renamesClasses_extend
    {chain : Chain}
    {layer : Layer}
    (renamesClasses : chain.table.RenamesClasses)
    (entries : layer.entries.RenamesClasses)
    (carried : ∀ target ∈ chain.table.classes.values,
      (layer.toRenaming.renameType target).isClass = true) :
    (chain.extend layer).table.RenamesClasses := by
  apply forall_entries_carry
  · intro entry entryIn
    obtain ⟨sourceClass, targetClass⟩ := entries entry entryIn
    exact ⟨renamesClasses.inverse.isClass_renameType sourceClass, targetClass⟩
  · intro entry entryIn
    exact ⟨(renamesClasses entry entryIn).1, carried entry.2 (List.mem_map_of_mem entryIn)⟩

/-- The chain of layers that keep classes has class entries between classes. -/
theorem renamesClasses_chain_of_keepsClasses
    {layers : List Layer}
    (keeps : ∀ layer ∈ layers, layer.KeepsClasses) :
    (chain layers).RenamesClasses := by
  induction layers using List.reverseRecOn with
  | nil => exact fun _ entryIn => absurd entryIn List.not_mem_nil
  | append_singleton layers last step =>
      have before := step fun layer layerIn => keeps layer (List.mem_append_left _ layerIn)
      have lastKeeps := keeps last (by simp)
      rw [chain, ofLayers_append_singleton]
      apply renamesClasses_extend before lastKeeps.entries
      exact fun target targetIn => lastKeeps.renamed (before.classTargets target targetIn)

/-- The chain of tables with class entries between classes has such entries. -/
theorem renamesClasses_chain
    {tables : List MappingTable}
    (renamesClasses : ∀ table ∈ tables, table.RenamesClasses) :
    (chain (tables.map .stored)).RenamesClasses :=
  renamesClasses_chain_of_keepsClasses <| List.forall_mem_map.2 fun table tableIn =>
    (renamesClasses table tableIn).keepsClasses

end Chain
end ObfuscationMap
