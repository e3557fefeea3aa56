import ObfuscationMap.Proofs.OrderedMap.Lookup

/-!
# Lookups and the entries of one key

What a lookup finds depends on the entries of the sought key alone, and among them on
their order. So entries of other keys may be left out or moved, and an entry that is taken
out of a map leaves the lookups of other keys as they were.
-/

namespace ObfuscationMap
namespace Entries

variable {α κ ν : Type} [DecidableEq κ]

/-- Items that say nothing of a key may be left out before it is sought. -/
theorem find?_filterMap_filter
    {select : α -> Option (κ × ν)}
    {about : α -> Bool}
    {key : κ}
    (covers : ∀ item value, select item = some (key, value) -> about item = true)
    (items : List α) :
    find? key ((items.filter about).filterMap select) =
      find? key (items.filterMap select) := by
  induction items with
  | nil => rfl
  | cons item rest step =>
      cases selected : select item with
      | none =>
          rw [List.filterMap_cons_none selected, List.filter_cons]
          split
          · rw [List.filterMap_cons_none selected, step]
          · exact step
      | some entry =>
          obtain ⟨other, value⟩ := entry
          rw [List.filterMap_cons_some selected, List.filter_cons]
          by_cases here : other = key
          · subst here
            rw [if_pos (covers item value selected), List.filterMap_cons_some selected]
            simp [find?]
          · split
            · rw [List.filterMap_cons_some selected]
              simp only [find?, here, if_false, step]
            · simp only [find?, here, if_false, step]

theorem find?_takeOut (key sought : κ) (entries : List (κ × ν)) :
    find? sought (takeOut key entries) =
      if key = sought then none else find? sought entries := by
  induction entries with
  | nil => simp [takeOut, find?]
  | cons entry rest step =>
      obtain ⟨other, value⟩ := entry
      by_cases taken : other = key
      · have left : takeOut key ((other, value) :: rest) = takeOut key rest :=
          List.filter_cons_of_neg (by simp [taken])
        rw [left, step]
        by_cases here : key = sought <;> simp [find?, taken, here]
      · have kept : takeOut key ((other, value) :: rest) =
            (other, value) :: takeOut key rest :=
          List.filter_cons_of_pos (by simp [taken])
        rw [kept, find?, step]
        by_cases here : other = sought
        · subst here
          simp [find?, Ne.symm taken]
        · simp [find?, here]

/-- With distinct keys, an entry that is kept is found as before. -/
theorem find?_filter
    (keep : κ -> ν -> Bool)
    (key : κ)
    (entries : List (κ × ν))
    (distinct : (keys entries).Nodup) :
    find? key (entries.filter fun entry => keep entry.1 entry.2) =
      (find? key entries).filter (keep key) := by
  apply Option.ext
  intro value
  rw [find?_eq_some_iff key value _ (nodup_keys_filter _ entries distinct), List.mem_filter,
    ← find?_eq_some_iff key value entries distinct, Option.filter_eq_some_iff]

end Entries

namespace OrderedMap

variable {α κ ν : Type} [DecidableEq κ]

theorem get?_erase (map : OrderedMap κ ν) (key sought : κ) :
    (map.erase key).get? sought = if key = sought then none else map.get? sought :=
  Entries.find?_takeOut key sought map.entries

theorem get?_filter (keep : κ -> ν -> Bool) (map : OrderedMap κ ν) (key : κ) :
    (map.filter keep).get? key = (map.get? key).filter (keep key) :=
  Entries.find?_filter keep key map.entries map.distinct

/-- The entries of a map answer before those of the map that they are inserted into. -/
theorem get?_insertAll_entries (map added : OrderedMap κ ν) (key : κ) :
    (map.insertAll added.entries).get? key = (added.get? key).or (map.get? key) := by
  rw [get?_insertAll, Entries.find?_reverse key added.entries added.distinct]
  rfl

/-- Entries may be completed from a part of them as they are inserted. -/
theorem get?_insertAll_map_entries
    {ω : Type}
    (map : OrderedMap κ ν)
    (added : OrderedMap κ ω)
    (complete : κ -> ω -> ν)
    (key : κ) :
    (map.insertAll (added.entries.map fun entry => (entry.1, complete entry.1 entry.2))).get? key =
      ((added.get? key).map (complete key)).or (map.get? key) := by
  rw [← get?_mapValues, ← get?_insertAll_entries]
  rfl

/-- The value of a key depends on the items that say something of it alone. -/
theorem get?_ofList_filterMap_congr
    {select : α -> Option (κ × ν)}
    {about : α -> Bool}
    {key : κ}
    (covers : ∀ item value, select item = some (key, value) -> about item = true)
    {left right : List α}
    (same : left.filter about = right.filter about) :
    (ofList (left.filterMap select)).get? key =
      (ofList (right.filterMap select)).get? key := by
  rw [get?_ofList, get?_ofList, ← List.filterMap_reverse, ← List.filterMap_reverse,
    ← Entries.find?_filterMap_filter covers left.reverse,
    ← Entries.find?_filterMap_filter covers right.reverse, List.filter_reverse,
    List.filter_reverse, same]

end OrderedMap
end ObfuscationMap
