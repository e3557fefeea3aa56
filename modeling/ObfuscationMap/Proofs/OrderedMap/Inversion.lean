import Mathlib.Data.Prod.Basic
import ObfuscationMap.Proofs.OrderedMap.Lookup

/-!
# Inverting a map

Inverting a map keeps the last of the entries with one target. An entry is therefore lost
exactly if a later one has its target, and a second inversion restores all others. The
inverse itself has distinct targets, so that it survives two more inversions.
-/

namespace ObfuscationMap
namespace Entries

section Lasting

variable {κ ν : Type} [DecidableEq ν]

/-- The entries whose target no later entry has. -/
def lasting : List (κ × ν) -> List (κ × ν)
  | [] => []
  | entry :: rest =>
      if entry.2 ∈ rest.map Prod.snd then lasting rest else entry :: lasting rest

/-- The entries that are followed by one with the same target. -/
def overtaken : List (κ × ν) -> List (κ × ν)
  | [] => []
  | entry :: rest =>
      if entry.2 ∈ rest.map Prod.snd then entry :: overtaken rest else overtaken rest

theorem lasting_sublist (entries : List (κ × ν)) : (lasting entries).Sublist entries := by
  induction entries with
  | nil => exact List.Sublist.refl []
  | cons entry rest step =>
      rw [lasting]
      split
      · exact step.cons entry
      · exact step.cons_cons entry

/-- Every entry either lasts or is overtaken. -/
theorem length_lasting_add_length_overtaken (entries : List (κ × ν)) :
    (lasting entries).length + (overtaken entries).length = entries.length := by
  induction entries with
  | nil => rfl
  | cons entry rest step =>
      rw [lasting, overtaken]
      split
      · rw [List.length_cons, List.length_cons, ← step, Nat.add_assoc]
      · rw [List.length_cons, List.length_cons, ← step, Nat.add_right_comm]

theorem lasting_eq_self
    {entries : List (κ × ν)}
    (distinct : (entries.map Prod.snd).Nodup) :
    lasting entries = entries := by
  induction entries with
  | nil => rfl
  | cons entry rest step =>
      rw [List.map_cons, List.nodup_cons] at distinct
      rw [lasting, if_neg distinct.1, step distinct.2]

/-- An entry lasts exactly if it stands somewhere with no entry of its target behind it. -/
theorem mem_lasting_iff (entry : κ × ν) (entries : List (κ × ν)) :
    entry ∈ lasting entries ↔
      ∃ earlier later, entries = earlier ++ entry :: later ∧
        entry.2 ∉ later.map Prod.snd := by
  induction entries with
  | nil => simp [lasting]
  | cons first rest step =>
      have behind : (∃ earlier later, first :: rest = earlier ++ entry :: later ∧
            entry.2 ∉ later.map Prod.snd) ↔
          (entry = first ∧ entry.2 ∉ rest.map Prod.snd) ∨ entry ∈ lasting rest := by
        rw [step]
        constructor
        · rintro ⟨earlier, later, split, last⟩
          cases earlier with
          | nil =>
              obtain ⟨rfl, rfl⟩ := List.cons.inj split
              exact .inl ⟨rfl, last⟩
          | cons head earlier =>
              exact .inr ⟨earlier, later, (List.cons.inj split).2, last⟩
        · rintro (⟨rfl, last⟩ | ⟨earlier, later, rfl, last⟩)
          · exact ⟨[], rest, rfl, last⟩
          · exact ⟨first :: earlier, later, rfl, last⟩
      rw [behind, lasting]
      by_cases taken : first.2 ∈ rest.map Prod.snd
      · rw [if_pos taken]
        refine ⟨.inr, fun here => here.resolve_left ?_⟩
        rintro ⟨rfl, last⟩
        exact last taken
      · rw [if_neg taken, List.mem_cons]
        refine or_congr_left ⟨?_, And.left⟩
        rintro rfl
        exact ⟨rfl, taken⟩

/-- Searching the exchanged entries from the end finds the entry that lasts. -/
theorem find?_reverse_map_swap_eq_some_iff
    (source : κ)
    (target : ν)
    (entries : List (κ × ν)) :
    find? target (entries.map Prod.swap).reverse = some source ↔
      (source, target) ∈ lasting entries := by
  induction entries with
  | nil => simp [find?, lasting]
  | cons entry rest step =>
      obtain ⟨other, value⟩ := entry
      have absent : find? target (rest.map Prod.swap).reverse = none ↔
          target ∉ rest.map Prod.snd := by
        rw [find?_eq_none_iff, keys, List.map_reverse, List.mem_reverse, List.map_map]
        rfl
      rw [List.map_cons, List.reverse_cons, find?_append, Option.or_eq_some_iff, step, absent,
        lasting]
      by_cases taken : value ∈ rest.map Prod.snd
      · rw [if_pos taken]
        refine ⟨fun found => found.resolve_right ?_, .inl⟩
        rintro ⟨free, found⟩
        by_cases here : value = target
        · exact free (here ▸ taken)
        · simp [find?, here] at found
      · rw [if_neg taken, List.mem_cons, or_comm]
        refine or_congr_left ?_
        by_cases here : value = target
        · subst here
          simp [find?, taken, eq_comm]
        · simp [find?, here, Ne.symm here]

end Lasting

end Entries

namespace OrderedMap

section Lasting

variable {κ ν : Type} [DecidableEq ν]

/-- The entries of a map whose target no later entry has. -/
def lasting (map : OrderedMap κ ν) : OrderedMap κ ν where
  entries := Entries.lasting map.entries
  distinct := map.distinct.sublist ((Entries.lasting_sublist map.entries).map Prod.fst)

theorem lasting_eq_self_of_nodup
    {map : OrderedMap κ ν}
    (distinct : map.values.Nodup) :
    map.lasting = map :=
  ext _ _ (Entries.lasting_eq_self distinct)

end Lasting

variable {α : Type} [DecidableEq α]

/-- A source is the last in order that a map leads to a target. -/
def LastSource (map : OrderedMap α α) (source target : α) : Prop :=
  ∃ earlier later, map.entries = earlier ++ (source, target) :: later ∧
    target ∉ later.map Prod.snd

theorem mem_entries_lasting_iff (map : OrderedMap α α) (source target : α) :
    (source, target) ∈ map.lasting.entries ↔ map.LastSource source target :=
  Entries.mem_lasting_iff (source, target) map.entries

instance (map : OrderedMap α α) (source target : α) : Decidable (map.LastSource source target) :=
  decidable_of_iff _ (map.mem_entries_lasting_iff source target)

/-- The inverse leads a target to the source of the entry that lasts. -/
theorem get?_inverse_eq_some_iff (map : OrderedMap α α) (source target : α) :
    map.inverse.get? target = some source ↔ (source, target) ∈ map.lasting.entries := by
  rw [inverse, get?_ofList]
  exact Entries.find?_reverse_map_swap_eq_some_iff source target map.entries

/-- The inverse of a map with distinct targets has exactly its entries, exchanged. -/
theorem get?_inverse_eq_some_iff_of_nodup
    {map : OrderedMap α α}
    (distinct : map.values.Nodup)
    (source target : α) :
    map.inverse.get? target = some source ↔ map.get? source = some target :=
  ⟨get?_of_get?_inverse, get?_inverse_of_get? distinct⟩

theorem perm_entries_inverse (map : OrderedMap α α) :
    map.inverse.entries.Perm (map.lasting.entries.map Prod.swap) := by
  have distinct : (map.lasting.entries.map Prod.swap).Nodup :=
    map.lasting.nodup_entries.map Prod.swap_injective
  rw [List.perm_ext_iff_of_nodup map.inverse.nodup_entries distinct]
  rintro ⟨target, source⟩
  rw [← get?_eq_some_iff, get?_inverse_eq_some_iff, ← Prod.swap_prod_mk (a := source),
    List.mem_map_of_injective Prod.swap_injective]

/-- A map and its inverse differ in size by the entries that are overtaken. -/
theorem size_inverse_add_length_overtaken (map : OrderedMap α α) :
    map.inverse.size + (Entries.overtaken map.entries).length = map.size := by
  have kept : map.inverse.size = (Entries.lasting map.entries).length := by
    rw [size, (perm_entries_inverse map).length_eq, List.length_map]
    rfl
  rw [kept]
  exact Entries.length_lasting_add_length_overtaken map.entries

theorem size_inverse_of_nodup
    {map : OrderedMap α α}
    (distinct : map.values.Nodup) :
    map.inverse.size = map.size := by
  rw [size, (perm_entries_inverse map).length_eq, List.length_map,
    lasting_eq_self_of_nodup distinct, size]

theorem nodup_values_inverse (map : OrderedMap α α) : map.inverse.values.Nodup := by
  apply nodup_values_of_source_unique
  intro left right source leftFound rightFound
  have leftBack := get?_of_get?_inverse leftFound
  have rightBack := get?_of_get?_inverse rightFound
  exact Option.some.inj (leftBack.symm.trans rightBack)

theorem mem_keys_inverse (map : OrderedMap α α) (target : α) :
    target ∈ map.inverse.keys ↔ target ∈ map.values := by
  rw [← not_iff_not, ← get?_eq_none_iff, get?_inverse_eq_none_iff]

theorem mem_values_inverse_of_nodup
    {map : OrderedMap α α}
    (distinct : map.values.Nodup)
    (source : α) :
    source ∈ map.inverse.values ↔ source ∈ map.keys := by
  simp only [mem_values_iff, mem_keys_iff, get?_inverse_eq_some_iff_of_nodup distinct]

/-- Inverting twice keeps exactly the entries that last. -/
theorem sameEntries_inverse_inverse (map : OrderedMap α α) :
    map.inverse.inverse.sameEntries map.lasting = true := by
  rw [sameEntries_iff_get?]
  intro source
  apply Option.ext
  intro target
  rw [get?_inverse_eq_some_iff_of_nodup (nodup_values_inverse map), get?_inverse_eq_some_iff,
    get?_eq_some_iff]

/-- Inverting twice restores a map exactly if its targets are distinct. -/
theorem sameEntries_inverse_inverse_self_iff (map : OrderedMap α α) :
    map.inverse.inverse.sameEntries map = true ↔ map.values.Nodup := by
  constructor
  · intro restored
    rw [sameEntries_iff_get?] at restored
    apply nodup_values_of_source_unique
    intro left right target leftFound rightFound
    rw [← restored] at leftFound rightFound
    have leftLed := get?_of_get?_inverse leftFound
    have rightLed := get?_of_get?_inverse rightFound
    exact Option.some.inj (leftLed.symm.trans rightLed)
  · intro distinct
    have restored := sameEntries_inverse_inverse map
    rwa [lasting_eq_self_of_nodup distinct] at restored

end OrderedMap
end ObfuscationMap
