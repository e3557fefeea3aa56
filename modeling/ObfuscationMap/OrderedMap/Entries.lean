/-!
# Lists of entries with distinct keys

The operations of an ordered map on the list of its entries: finding the value
of a key, putting a value in place or at the end, and taking a key out. Each
comes with its effect on the keys and on later lookups.
-/

namespace ObfuscationMap
namespace Entries

variable {κ ν : Type}

/-- The keys of a list of entries, in order. -/
def keys (entries : List (κ × ν)) : List κ :=
  entries.map Prod.fst

theorem nodup_keys_filter
    (keep : κ × ν -> Bool)
    (entries : List (κ × ν))
    (distinct : (keys entries).Nodup) :
    (keys (entries.filter keep)).Nodup :=
  distinct.sublist (List.filter_sublist.map Prod.fst)

variable [DecidableEq κ]

/-- The value of the first entry with a key. -/
def find? (key : κ) : List (κ × ν) -> Option ν
  | [] => none
  | (other, value) :: rest => if other = key then some value else find? key rest

/-- Replace the value of a key where it stands, or add an entry at the end. -/
def put (key : κ) (value : ν) : List (κ × ν) -> List (κ × ν)
  | [] => [(key, value)]
  | (other, old) :: rest =>
      if other = key then (key, value) :: rest else (other, old) :: put key value rest

/-- Take out the entry of a key and keep the order of the others. -/
def takeOut (key : κ) (entries : List (κ × ν)) : List (κ × ν) :=
  entries.filter fun entry => decide (entry.1 ≠ key)

theorem keys_put (key : κ) (value : ν) (entries : List (κ × ν)) :
    keys (put key value entries) =
      if key ∈ keys entries then keys entries else keys entries ++ [key] := by
  induction entries with
  | nil => simp [put, keys]
  | cons entry rest step =>
      obtain ⟨other, old⟩ := entry
      by_cases same : other = key
      · simp [put, keys, same]
      · simp only [put, same, if_false]
        simp only [keys, List.map_cons, List.mem_cons] at step ⊢
        rw [step]
        by_cases occurs : key ∈ rest.map Prod.fst
        · simp [occurs]
        · simp [occurs, Ne.symm same]

theorem nodup_keys_put
    (key : κ)
    (value : ν)
    (entries : List (κ × ν))
    (distinct : (keys entries).Nodup) :
    (keys (put key value entries)).Nodup := by
  rw [keys_put]
  split
  · exact distinct
  · next absent =>
      rw [List.nodup_append]
      refine ⟨distinct, by simp, ?_⟩
      intro left leftIn right rightIn same
      rw [List.mem_singleton] at rightIn
      exact absent (rightIn ▸ same ▸ leftIn)

theorem find?_put (key sought : κ) (value : ν) (entries : List (κ × ν)) :
    find? sought (put key value entries) =
      if key = sought then some value else find? sought entries := by
  induction entries with
  | nil => simp [put, find?]
  | cons entry rest step =>
      obtain ⟨other, old⟩ := entry
      by_cases same : other = key
      · subst same
        by_cases here : other = sought <;> simp [put, find?, here]
      · by_cases here : other = sought
        · subst here
          simp [put, find?, same, Ne.symm same]
        · simp [put, find?, same, here, step]

theorem find?_eq_none_iff (key : κ) (entries : List (κ × ν)) :
    find? key entries = none ↔ key ∉ keys entries := by
  induction entries with
  | nil => simp [find?, keys]
  | cons entry rest step =>
      obtain ⟨other, value⟩ := entry
      by_cases here : other = key
      · simp [find?, keys, here]
      · simp only [find?, here, if_false, step]
        simp [keys, Ne.symm here]

/-- With distinct keys, a lookup finds a value exactly if the entry is there. -/
theorem find?_eq_some_iff
    (key : κ)
    (value : ν)
    (entries : List (κ × ν))
    (distinct : (keys entries).Nodup) :
    find? key entries = some value ↔ (key, value) ∈ entries := by
  induction entries with
  | nil => simp [find?]
  | cons entry rest step =>
      obtain ⟨other, old⟩ := entry
      simp only [keys, List.map_cons, List.nodup_cons] at distinct
      by_cases here : other = key
      · subst here
        have absent : (other, value) ∉ rest := fun member =>
          distinct.1 (List.mem_map_of_mem (f := Prod.fst) member)
        simp [find?, absent, eq_comm]
      · simp [find?, here, Ne.symm here, step distinct.2]

end Entries
end ObfuscationMap
