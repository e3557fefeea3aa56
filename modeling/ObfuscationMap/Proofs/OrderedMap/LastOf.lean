import Mathlib.Data.List.Forall2
import Mathlib.Data.List.Perm.Basic
import ObfuscationMap.Proofs.OrderedMap.Inversion

/-!
# The last of each key

Of several entries with one key, a map holds the last value. So the entries of a map that is
made from a list are those that no later one of the list has the key of, in another order.
-/

namespace ObfuscationMap
namespace Entries

variable {α β κ ν ω : Type} [DecidableEq κ] [DecidableEq ω]

/-- The items whose key no later item has. -/
def lastBy (key : α -> κ) : List α -> List α
  | [] => []
  | item :: rest =>
      if key item ∈ rest.map key then lastBy key rest else item :: lastBy key rest

theorem lastBy_sublist (key : α -> κ) (items : List α) : (lastBy key items).Sublist items := by
  induction items with
  | nil => exact List.Sublist.refl []
  | cons item rest step =>
      rw [lastBy]
      split
      · exact step.cons item
      · exact step.cons_cons item

/-- Nothing is left out where all keys are different. -/
theorem lastBy_eq_self
    {key : α -> κ}
    {items : List α}
    (distinct : (items.map key).Nodup) :
    lastBy key items = items := by
  induction items with
  | nil => rfl
  | cons item rest step =>
      rw [List.map_cons, List.nodup_cons] at distinct
      rw [lastBy, if_neg distinct.1, step distinct.2]

theorem nodup_map_lastBy (key : α -> κ) (items : List α) :
    ((lastBy key items).map key).Nodup := by
  induction items with
  | nil => exact List.nodup_nil
  | cons item rest step =>
      rw [lastBy]
      split
      · exact step
      · next last =>
          rw [List.map_cons, List.nodup_cons]
          exact ⟨fun later => last (((lastBy_sublist key rest).map key).subset later), step⟩

section Related

variable {related : α -> β -> Prop} {key : α -> κ} {other : β -> ω}
variable (alike : ∀ left leftOf right rightOf, related left leftOf -> related right rightOf ->
  (key left = key right ↔ other leftOf = other rightOf))
include alike

omit [DecidableEq κ] [DecidableEq ω] in
theorem mem_map_iff_of_forall₂
    {item : α}
    {image : β}
    (first : related item image)
    {items : List α}
    {images : List β}
    (rest : List.Forall₂ related items images) :
    key item ∈ items.map key ↔ other image ∈ images.map other := by
  induction rest with
  | nil => simp only [List.map_nil, List.not_mem_nil]
  | cons head _ step =>
      rw [List.map_cons, List.map_cons, List.mem_cons, List.mem_cons, step,
        alike _ _ _ _ first head]

/-- Lists whose items are related in turn, with keys that are equal alike, keep related items. -/
theorem forall₂_lastBy
    {items : List α}
    {images : List β}
    (rest : List.Forall₂ related items images) :
    List.Forall₂ related (lastBy key items) (lastBy other images) := by
  induction rest with
  | nil => exact .nil
  | cons head tail step =>
      rw [lastBy, lastBy]
      simp only [mem_map_iff_of_forall₂ alike head tail]
      split
      · exact step
      · exact .cons head step

end Related

theorem lasting_map_swap (entries : List (κ × ν)) :
    lasting (entries.map Prod.swap) = (lastBy Prod.fst entries).map Prod.swap := by
  induction entries with
  | nil => rfl
  | cons entry rest step =>
      have same : (rest.map Prod.swap).map Prod.snd = rest.map Prod.fst := by
        rw [List.map_map]
        rfl
      rw [List.map_cons, lasting, lastBy, same, step, Prod.snd_swap]
      split <;> rfl

/-- The value that stands last for a key is the one that is found from the end. -/
theorem mem_lastBy_fst_iff (key : κ) (value : ν) (entries : List (κ × ν)) :
    (key, value) ∈ lastBy Prod.fst entries ↔ find? key entries.reverse = some value := by
  have found := find?_reverse_map_swap_eq_some_iff value key (entries.map Prod.swap)
  rw [List.map_map, Prod.swap_swap_eq, List.map_id, lasting_map_swap] at found
  rw [found, List.mem_map]
  constructor
  · exact fun last => ⟨_, last, rfl⟩
  · rintro ⟨entry, last, same⟩
    obtain rfl : entry = (key, value) := Prod.swap_injective same
    exact last

end Entries

/-- A map has the last entry of each key. -/
theorem OrderedMap.perm_entries_ofList
    {κ ν : Type}
    [DecidableEq κ]
    (entries : List (κ × ν)) :
    (ofList entries).entries.Perm (Entries.lastBy Prod.fst entries) := by
  have distinct := List.Nodup.of_map Prod.fst (Entries.nodup_map_lastBy Prod.fst entries)
  rw [List.perm_ext_iff_of_nodup (ofList entries).nodup_entries distinct]
  rintro ⟨key, value⟩
  rw [← get?_eq_some_iff, get?_ofList, Entries.mem_lastBy_fst_iff]

end ObfuscationMap
