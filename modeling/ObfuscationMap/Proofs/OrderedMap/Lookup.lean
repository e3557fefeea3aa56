import Mathlib.Data.List.Induction
import Mathlib.Data.List.Nodup
import Mathlib.Data.List.Perm.Subperm
import ObfuscationMap.OrderedMap.Basic

/-!
# Lookups in maps that were put together

A map is put together by inserting entries one after another, so the last of
several entries with one key stands. This module states what a lookup finds in
such a map, in the inverse of a map, and in maps with the same entries.
-/

namespace ObfuscationMap
namespace Entries

variable {κ ν ω : Type} [DecidableEq κ]

theorem find?_append (key : κ) (left right : List (κ × ν)) :
    find? key (left ++ right) = (find? key left).or (find? key right) := by
  induction left with
  | nil => simp [find?]
  | cons entry rest step =>
      by_cases here : entry.1 = key <;> simp [find?, here, step]

theorem mem_of_find?_eq_some
    {key : κ}
    {value : ν}
    {entries : List (κ × ν)}
    (found : find? key entries = some value) :
    (key, value) ∈ entries := by
  induction entries with
  | nil => cases found
  | cons entry rest step =>
      obtain ⟨other, old⟩ := entry
      by_cases here : other = key
      · subst here
        simp only [find?, if_true, Option.some.injEq] at found
        simp [found]
      · simp only [find?, here, if_false] at found
        exact List.mem_cons_of_mem _ (step found)

/-- A key whose entries all have the same value is found with this value. -/
theorem find?_eq_some_of_unique
    {key : κ}
    {value : ν}
    {entries : List (κ × ν)}
    (present : (key, value) ∈ entries)
    (unique : ∀ other, (key, other) ∈ entries -> other = value) :
    find? key entries = some value := by
  cases found : find? key entries with
  | none =>
      have absent := (find?_eq_none_iff key entries).1 found
      exact absurd (List.mem_map_of_mem (f := Prod.fst) present) absent
  | some other => rw [unique other (mem_of_find?_eq_some found)]

theorem find?_reverse
    (key : κ)
    (entries : List (κ × ν))
    (distinct : (keys entries).Nodup) :
    find? key entries.reverse = find? key entries := by
  have reversed : (keys entries.reverse).Nodup := by
    rw [keys, List.map_reverse, List.nodup_reverse]
    exact distinct
  apply Option.ext
  intro value
  rw [find?_eq_some_iff key value _ reversed, find?_eq_some_iff key value _ distinct,
    List.mem_reverse]

theorem find?_map_value
    (change : ν -> ω)
    (key : κ)
    (entries : List (κ × ν)) :
    find? key (entries.map fun entry => (entry.1, change entry.2)) =
      (find? key entries).map change := by
  induction entries with
  | nil => rfl
  | cons entry rest step =>
      by_cases here : entry.1 = key <;> simp [find?, here, step]

/-- An entry of a list with one more at the end is this last one or stands before
it. -/
theorem append_singleton_eq_append_cons_iff
    {entries earlier later : List (ω × ν)}
    {final entry : ω × ν} :
    entries ++ [final] = earlier ++ entry :: later ↔
      (entries = earlier ∧ final = entry ∧ later = []) ∨
        ∃ between, later = between ++ [final] ∧ entries = earlier ++ entry :: between := by
  constructor
  · intro split
    rcases List.eq_nil_or_concat' later with rfl | ⟨between, last, rfl⟩
    · obtain ⟨same, rfl⟩ := List.append_singleton_inj.1 split
      exact .inl ⟨same, rfl, rfl⟩
    · rw [← List.cons_append, ← List.append_assoc] at split
      obtain ⟨same, rfl⟩ := List.append_singleton_inj.1 split
      exact .inr ⟨between, rfl, same⟩
  · rintro (⟨rfl, rfl, rfl⟩ | ⟨between, rfl, rfl⟩)
    · rfl
    · rw [List.append_assoc, List.cons_append]

/-- Searching from the end, with each key led somewhere, finds the last entry that is
led to the key. -/
theorem find?_reverse_map_key_eq_some_iff
    (lead : ω -> κ)
    (entries : List (ω × ν))
    (key : κ)
    (value : ν) :
    find? key (entries.map fun entry => (lead entry.1, entry.2)).reverse = some value ↔
      ∃ earlier other later, entries = earlier ++ (other, value) :: later ∧
        lead other = key ∧ ∀ entry ∈ later, lead entry.1 ≠ key := by
  induction entries using List.reverseRecOn with
  | nil => simp [find?]
  | append_singleton entries final step =>
      rw [List.map_append, List.reverse_append, List.map_singleton, List.reverse_singleton,
        List.singleton_append, find?]
      simp only [append_singleton_eq_append_cons_iff]
      by_cases here : lead final.1 = key
      · rw [if_pos here, Option.some.injEq]
        constructor
        · rintro rfl
          exact ⟨entries, final.1, [], .inl ⟨rfl, rfl, rfl⟩, here, by simp⟩
        · rintro ⟨earlier, other, later, ⟨-, rfl, -⟩ | ⟨between, rfl, -⟩, led, elsewhere⟩
          · rfl
          · exact absurd here (elsewhere final (by simp))
      · rw [if_neg here, step]
        constructor
        · rintro ⟨earlier, other, later, split, led, elsewhere⟩
          refine ⟨earlier, other, later ++ [final], .inr ⟨later, rfl, split⟩, led, ?_⟩
          intro entry entryIn
          rcases List.mem_append.1 entryIn with old | new
          · exact elsewhere entry old
          · rwa [List.mem_singleton.1 new]
        · rintro ⟨earlier, other, later, ⟨-, rfl, -⟩ | ⟨between, rfl, split⟩, led, elsewhere⟩
          · exact absurd led here
          · exact ⟨earlier, other, between, split, led,
              fun entry entryIn => elsewhere entry (List.mem_append_left _ entryIn)⟩

/-- A new key is put at the end. -/
theorem put_of_not_mem
    {key : κ}
    {entries : List (κ × ν)}
    (fresh : key ∉ keys entries)
    (value : ν) :
    put key value entries = entries ++ [(key, value)] := by
  induction entries with
  | nil => rfl
  | cons entry rest step =>
      simp only [keys, List.map_cons, List.mem_cons, not_or] at fresh
      rw [put, if_neg (Ne.symm fresh.1), step fresh.2, List.cons_append]

end Entries

namespace OrderedMap

theorem mapValues_congr
    {κ ν ω : Type}
    {left right : κ -> ν -> ω}
    {map : OrderedMap κ ν}
    (agree : ∀ entry ∈ map.entries, left entry.1 entry.2 = right entry.1 entry.2) :
    map.mapValues left = map.mapValues right := by
  apply ext
  apply List.map_congr_left
  intro entry entryIn
  rw [agree entry entryIn]

theorem nodup_entries {κ ν : Type} (map : OrderedMap κ ν) : map.entries.Nodup :=
  List.Nodup.of_map Prod.fst map.distinct

section Lookup

variable {κ ν : Type} [DecidableEq κ]

/-- Of the inserted entries with a key the last stands; without one the map before
them answers. -/
theorem get?_insertAll
    (map : OrderedMap κ ν)
    (entries : List (κ × ν))
    (key : κ) :
    (map.insertAll entries).get? key =
      (Entries.find? key entries.reverse).or (map.get? key) := by
  induction entries generalizing map with
  | nil => rfl
  | cons entry rest step =>
      have grown : map.insertAll (entry :: rest) =
          (map.insert entry.1 entry.2).insertAll rest := rfl
      rw [grown, step, get?_insert, List.reverse_cons, Entries.find?_append,
        Option.or_assoc]
      by_cases here : entry.1 = key <;> simp [Entries.find?, here]

theorem get?_ofList (entries : List (κ × ν)) (key : κ) :
    (ofList entries).get? key = Entries.find? key entries.reverse := by
  rw [ofList, get?_insertAll, get?_empty, Option.or_none]

/-- An insertion keeps what holds of all entries and of the new one. -/
theorem forall_entries_insert
    {holds : κ × ν -> Prop}
    {map : OrderedMap κ ν}
    (before : ∀ entry ∈ map.entries, holds entry)
    {key : κ}
    {value : ν}
    (new : holds (key, value)) :
    ∀ entry ∈ (map.insert key value).entries, holds entry := by
  rintro ⟨other, old⟩ entryIn
  rw [← get?_eq_some_iff, get?_insert] at entryIn
  split at entryIn
  · next same =>
      cases entryIn
      exact same ▸ new
  · exact before _ ((get?_eq_some_iff _ _ _).1 entryIn)

theorem forall_entries_insertAll
    {holds : κ × ν -> Prop}
    {map : OrderedMap κ ν}
    (before : ∀ entry ∈ map.entries, holds entry)
    {entries : List (κ × ν)}
    (new : ∀ entry ∈ entries, holds entry) :
    ∀ entry ∈ (map.insertAll entries).entries, holds entry := by
  induction entries generalizing map with
  | nil => exact before
  | cons first rest step =>
      have grown := forall_entries_insert before (new first List.mem_cons_self)
      exact step grown fun entry entryIn => new entry (List.mem_cons_of_mem _ entryIn)

theorem mem_of_mem_entries_ofList
    {entries : List (κ × ν)}
    {entry : κ × ν}
    (entryIn : entry ∈ (ofList entries).entries) :
    entry ∈ entries :=
  forall_entries_insertAll (fun _ absurdIn => absurd absurdIn List.not_mem_nil)
    (fun _ => id) entry entryIn

theorem entries_insertAll_of_distinct
    (map : OrderedMap κ ν)
    (entries : List (κ × ν))
    (distinct : (Entries.keys (map.entries ++ entries)).Nodup) :
    (map.insertAll entries).entries = map.entries ++ entries := by
  induction entries generalizing map with
  | nil => simp [insertAll]
  | cons entry rest step =>
      have fresh : entry.1 ∉ Entries.keys map.entries := by
        simp only [Entries.keys, List.map_append, List.map_cons] at distinct
        exact fun present => (List.nodup_append.1 distinct).2.2 _ present _
          (List.mem_cons_self ..) rfl
      have put : (map.insert entry.1 entry.2).entries = map.entries ++ [entry] :=
        Entries.put_of_not_mem fresh entry.2
      have grown : map.insertAll (entry :: rest) =
          (map.insert entry.1 entry.2).insertAll rest := rfl
      have regroup : map.entries ++ entry :: rest = map.entries ++ [entry] ++ rest := by
        simp
      rw [regroup, ← put] at distinct
      rw [grown, step _ distinct, put, regroup]

/-- A map is the map of its own entries. -/
theorem ofList_entries (map : OrderedMap κ ν) : ofList map.entries = map := by
  apply ext
  rw [ofList, entries_insertAll_of_distinct]
  · rfl
  · exact map.distinct

theorem get?_mapValues
    {ω : Type}
    (change : κ -> ν -> ω)
    (map : OrderedMap κ ν)
    (key : κ) :
    (map.mapValues change).get? key = (map.get? key).map (change key) := by
  have answers : ∀ entries : List (κ × ν),
      Entries.find? key (entries.map fun entry => (entry.1, change entry.1 entry.2)) =
        (Entries.find? key entries).map (change key) := by
    intro entries
    induction entries with
    | nil => rfl
    | cons entry rest step =>
        by_cases here : entry.1 = key
        · simp [Entries.find?, here]
        · simp [Entries.find?, here, step]
  exact answers map.entries

/-- Values may be changed before or after an insertion. -/
theorem mapValues_insert
    {ω : Type}
    (change : κ -> ν -> ω)
    (map : OrderedMap κ ν)
    (key : κ)
    (value : ν) :
    (map.insert key value).mapValues change =
      (map.mapValues change).insert key (change key value) := by
  have places : ∀ entries : List (κ × ν),
      ((Entries.put key value entries).map fun entry => (entry.1, change entry.1 entry.2)) =
        Entries.put key (change key value)
          (entries.map fun entry => (entry.1, change entry.1 entry.2)) := by
    intro entries
    induction entries with
    | nil => rfl
    | cons entry rest step =>
        by_cases here : entry.1 = key
        · simp [Entries.put, here]
        · simp [Entries.put, here, step]
  exact ext _ _ (places map.entries)

theorem mapValues_insertAll
    {ω : Type}
    (change : κ -> ν -> ω)
    (map : OrderedMap κ ν)
    (entries : List (κ × ν)) :
    (map.insertAll entries).mapValues change =
      (map.mapValues change).insertAll
        (entries.map fun entry => (entry.1, change entry.1 entry.2)) := by
  induction entries generalizing map with
  | nil => rfl
  | cons entry rest step =>
      have grown : map.insertAll (entry :: rest) =
          (map.insert entry.1 entry.2).insertAll rest := rfl
      rw [grown, step, mapValues_insert]
      rfl

/-- Values may be changed before the entries are put together or after. -/
theorem ofList_map_entries
    {ω : Type}
    (change : κ -> ν -> ω)
    (entries : List (κ × ν)) :
    ofList ((ofList entries).entries.map fun entry => (entry.1, change entry.1 entry.2)) =
      ofList (entries.map fun entry => (entry.1, change entry.1 entry.2)) :=
  (ofList_entries ((ofList entries).mapValues change)).trans
    (mapValues_insertAll change empty entries)

/-- Values may be put in as a part of them and be completed at the end. -/
theorem ofList_complete
    {ω : Type}
    (part : ν -> ω)
    (complete : κ -> ω -> ν)
    (entries : List (κ × ν)) :
    ofList ((ofList (entries.map fun entry => (entry.1, part entry.2))).entries.map
        fun entry => (entry.1, complete entry.1 entry.2)) =
      (ofList entries).mapValues fun key value => complete key (part value) := by
  rw [ofList_map_entries, List.map_map]
  exact (mapValues_insertAll (fun key value => complete key (part value)) empty entries).symm

theorem mem_keys_iff (map : OrderedMap κ ν) (key : κ) :
    key ∈ map.keys ↔ ∃ value, map.get? key = some value := by
  rw [← Option.isSome_iff_exists, ← Option.ne_none_iff_isSome, ne_eq, get?_eq_none_iff,
    not_not]

theorem mem_values_iff (map : OrderedMap κ ν) (value : ν) :
    value ∈ map.values ↔ ∃ key, map.get? key = some value := by
  simp [values, get?_eq_some_iff]

theorem mem_keys_of_get?_eq_some
    {map : OrderedMap κ ν}
    {key : κ}
    {value : ν}
    (found : map.get? key = some value) :
    key ∈ map.keys :=
  (mem_keys_iff map key).2 ⟨value, found⟩

theorem mem_values_of_get?_eq_some
    {map : OrderedMap κ ν}
    {key : κ}
    {value : ν}
    (found : map.get? key = some value) :
    value ∈ map.values :=
  (mem_values_iff map value).2 ⟨key, found⟩

end Lookup

section Congruence

variable {κ ν : Type} [DecidableEq κ] {left right : OrderedMap κ ν}

theorem mem_keys_congr (same : ∀ key, left.get? key = right.get? key) (key : κ) :
    key ∈ left.keys ↔ key ∈ right.keys := by
  simp only [mem_keys_iff, same]

theorem mem_values_congr (same : ∀ key, left.get? key = right.get? key) (value : ν) :
    value ∈ left.values ↔ value ∈ right.values := by
  simp only [mem_values_iff, same]

theorem mem_entries_congr (same : ∀ key, left.get? key = right.get? key) (entry : κ × ν) :
    entry ∈ left.entries ↔ entry ∈ right.entries := by
  rw [← get?_eq_some_iff, same, get?_eq_some_iff]

end Congruence

section Inverse

variable {α : Type} [DecidableEq α]

/-- Distinct sources have distinct targets. -/
theorem source_unique
    {map : OrderedMap α α}
    (injective : map.values.Nodup)
    {left right target : α}
    (leftFound : map.get? left = some target)
    (rightFound : map.get? right = some target) :
    left = right := by
  rw [get?_eq_some_iff] at leftFound rightFound
  have same := List.inj_on_of_nodup_map injective leftFound rightFound rfl
  exact congrArg Prod.fst same

/-- Targets are distinct if no two sources share one. -/
theorem nodup_values_of_source_unique
    {map : OrderedMap α α}
    (unique : ∀ left right target, map.get? left = some target ->
      map.get? right = some target -> left = right) :
    map.values.Nodup := by
  apply List.Nodup.map_on _ map.nodup_entries
  rintro ⟨left, target⟩ leftIn ⟨right, other⟩ rightIn rfl
  rw [← get?_eq_some_iff] at leftIn rightIn
  rw [unique left right target leftIn rightIn]

/-- What the inverse leads to is led back by the map. -/
theorem get?_of_get?_inverse
    {map : OrderedMap α α}
    {source target : α}
    (found : map.inverse.get? target = some source) :
    map.get? source = some target := by
  rw [inverse, get?_ofList] at found
  have member := Entries.mem_of_find?_eq_some found
  rw [List.mem_reverse, List.mem_map] at member
  obtain ⟨entry, entryIn, swapped⟩ := member
  rw [get?_eq_some_iff]
  have same : entry = (source, target) := by
    rw [← Prod.swap_swap entry, swapped, Prod.swap_prod_mk]
  exact same ▸ entryIn

theorem mem_keys_of_get?_inverse
    {map : OrderedMap α α}
    {source target : α}
    (found : map.inverse.get? target = some source) :
    source ∈ map.keys :=
  mem_keys_of_get?_eq_some (get?_of_get?_inverse found)

/-- The entries of the inverse are entries of the map, exchanged. -/
theorem swap_mem_of_mem_inverse
    {map : OrderedMap α α}
    {entry : α × α}
    (entryIn : entry ∈ map.inverse.entries) :
    entry.swap ∈ map.entries := by
  obtain ⟨other, otherIn, rfl⟩ := List.mem_map.1 (mem_of_mem_entries_ofList entryIn)
  exact otherIn

theorem get?_inverse_eq_none_iff (map : OrderedMap α α) (target : α) :
    map.inverse.get? target = none ↔ target ∉ map.values := by
  rw [inverse, get?_ofList, Entries.find?_eq_none_iff, Entries.keys, List.map_reverse,
    List.mem_reverse, List.map_map]
  rfl

theorem isSome_get?_inverse (map : OrderedMap α α) (target : α) :
    (map.inverse.get? target).isSome = decide (target ∈ map.values) := by
  rw [Bool.eq_iff_iff, ← Option.ne_none_iff_isSome, decide_eq_true_iff, ne_eq,
    get?_inverse_eq_none_iff, not_not]

/-- The inverse leads a target back to its source if no other source has it. -/
theorem get?_inverse_of_get?
    {map : OrderedMap α α}
    (injective : map.values.Nodup)
    {source target : α}
    (found : map.get? source = some target) :
    map.inverse.get? target = some source := by
  cases led : map.inverse.get? target with
  | none =>
      have absent := (get?_inverse_eq_none_iff map target).1 led
      exact absurd (mem_values_of_get?_eq_some found) absent
  | some other =>
      rw [source_unique injective (get?_of_get?_inverse led) found]

/-- Maps that answer alike have inverses that answer alike for a value of one key. -/
theorem get?_inverse_congr
    {left right : OrderedMap α α}
    (same : ∀ key, left.get? key = right.get? key)
    {value : α}
    (unique : ∀ key other, left.get? key = some value -> left.get? other = some value ->
      key = other) :
    left.inverse.get? value = right.inverse.get? value := by
  cases led : left.inverse.get? value with
  | none =>
      rw [get?_inverse_eq_none_iff, mem_values_congr same] at led
      exact ((get?_inverse_eq_none_iff right value).2 led).symm
  | some key =>
      have found := get?_of_get?_inverse led
      cases other : right.inverse.get? value with
      | none =>
          rw [get?_inverse_eq_none_iff, ← mem_values_congr same, mem_values_iff] at other
          exact absurd ⟨key, found⟩ other
      | some otherKey =>
          have otherFound := get?_of_get?_inverse other
          rw [← same] at otherFound
          rw [unique key otherKey found otherFound]

/-- The value of a key, or the key itself if it has none. -/
def follow (map : OrderedMap α α) (key : α) : α :=
  (map.get? key).getD key

theorem follow_of_get?_eq_some
    {map : OrderedMap α α}
    {key value : α}
    (found : map.get? key = some value) :
    map.follow key = value := by
  rw [follow, found, Option.getD_some]

theorem follow_of_get?_eq_none
    {map : OrderedMap α α}
    {key : α}
    (absent : map.get? key = none) :
    map.follow key = key := by
  rw [follow, absent, Option.getD_none]

/-- A key without an entry is led by the rule for such keys. -/
theorem mem_keys_or_getD_not_mem_values_iff (map : OrderedMap α α) (key rest : α) :
    (key ∈ map.keys ∨ (map.get? key).getD rest ∉ map.values) ↔
      (key ∈ map.keys ∨ rest ∉ map.values) := by
  cases found : map.get? key with
  | some value =>
      have present := mem_keys_of_get?_eq_some found
      exact iff_of_true (.inl present) (.inl present)
  | none => rw [Option.getD_none]

/-- Lookups with a rule for keys without an entry are undone by the inverse with a rule that
undoes the first, unless the first leads to a value of the map. -/
theorem getD_get?_inverse
    {map : OrderedMap α α}
    (injective : map.values.Nodup)
    {lead back : α -> α}
    {key : α}
    (undone : back (lead key) = key)
    (outside : key ∈ map.keys ∨ lead key ∉ map.values) :
    (map.inverse.get? ((map.get? key).getD (lead key))).getD
      (back ((map.get? key).getD (lead key))) = key := by
  cases found : map.get? key with
  | some value =>
      rw [Option.getD_some, get?_inverse_of_get? injective found, Option.getD_some]
  | none =>
      have absent := (get?_eq_none_iff map key).1 found
      have unled := (get?_inverse_eq_none_iff map _).2 (outside.resolve_left absent)
      rw [Option.getD_none, unled, Option.getD_none, undone]

/-- The inverse leads a key back, unless it is a value alone. -/
theorem follow_inverse_follow
    {map : OrderedMap α α}
    (injective : map.values.Nodup)
    {key : α}
    (before : key ∈ map.keys ∨ key ∉ map.values) :
    map.inverse.follow (map.follow key) = key := by
  have undone : id (id key) = key := rfl
  exact getD_get?_inverse injective undone before

/-- A map leads on again what its inverse leads back, unless it is a key alone. -/
theorem follow_follow_inverse
    {map : OrderedMap α α}
    {target : α}
    (after : target ∈ map.values ∨ target ∉ map.keys) :
    map.follow (map.inverse.follow target) = target := by
  cases led : map.inverse.get? target with
  | some source =>
      rw [follow_of_get?_eq_some led, follow_of_get?_eq_some (get?_of_get?_inverse led)]
  | none =>
      have noTarget := (get?_inverse_eq_none_iff map target).1 led
      have noSource := (get?_eq_none_iff map target).2 (after.resolve_left noTarget)
      rw [follow_of_get?_eq_none led, follow_of_get?_eq_none noSource]

/-- What is led back by the inverse is a source, unless it is no target and stays. -/
theorem follow_inverse (map : OrderedMap α α) (target : α) :
    map.inverse.follow target ∈ map.keys ∨
      target ∉ map.values ∧ map.inverse.follow target = target := by
  cases led : map.inverse.get? target with
  | some source =>
      rw [follow_of_get?_eq_some led]
      exact .inl (mem_keys_of_get?_inverse led)
  | none =>
      rw [follow_of_get?_eq_none led]
      exact .inr ⟨(get?_inverse_eq_none_iff map target).1 led, rfl⟩

/-- Keys that are no values of a map with distinct values are led to distinct places. -/
theorem eq_of_follow_eq
    {map : OrderedMap α α}
    (injective : map.values.Nodup)
    {left right : α}
    (leftFree : left ∉ map.values)
    (rightFree : right ∉ map.values)
    (same : map.follow left = map.follow right) :
    left = right := by
  cases leftFound : map.get? left with
  | some target =>
      have leftValue := mem_values_of_get?_eq_some leftFound
      rw [follow_of_get?_eq_some leftFound] at same
      cases rightFound : map.get? right with
      | some other =>
          rw [follow_of_get?_eq_some rightFound] at same
          exact source_unique injective leftFound (same ▸ rightFound)
      | none =>
          rw [follow_of_get?_eq_none rightFound] at same
          exact absurd (same ▸ leftValue) rightFree
  | none =>
      rw [follow_of_get?_eq_none leftFound] at same
      cases rightFound : map.get? right with
      | some other =>
          rw [follow_of_get?_eq_some rightFound] at same
          have rightValue := mem_values_of_get?_eq_some rightFound
          exact absurd (same ▸ rightValue) leftFree
      | none => rwa [follow_of_get?_eq_none rightFound] at same

end Inverse

section SameEntries

variable {κ ν : Type}

variable [DecidableEq κ] [DecidableEq ν]

/-- Maps have the same entries exactly if their lists of entries differ in order
alone. -/
theorem sameEntries_iff_perm (left right : OrderedMap κ ν) :
    left.sameEntries right = true ↔ left.entries.Perm right.entries := by
  simp only [sameEntries, size, Bool.and_eq_true, beq_iff_eq, List.all_eq_true,
    get?_eq_some_iff]
  constructor
  · rintro ⟨sameSize, included⟩
    have subset : left.entries ⊆ right.entries := fun entry => included entry
    exact (List.subperm_of_subset left.nodup_entries subset).perm_of_length_le
      (Nat.le_of_eq sameSize.symm)
  · intro permuted
    exact ⟨permuted.length_eq, fun entry entryIn => permuted.subset entryIn⟩

/-- Maps have the same entries exactly if they answer alike. -/
theorem sameEntries_iff_get? (left right : OrderedMap κ ν) :
    left.sameEntries right = true ↔ ∀ key, left.get? key = right.get? key := by
  rw [sameEntries_iff_perm,
    List.perm_ext_iff_of_nodup left.nodup_entries right.nodup_entries]
  constructor
  · intro same key
    apply Option.ext
    intro value
    rw [get?_eq_some_iff, get?_eq_some_iff, same]
  · rintro same ⟨key, value⟩
    rw [← get?_eq_some_iff, ← get?_eq_some_iff, same]

/-- Changed values are the old ones exactly if no entry changes. -/
theorem sameEntries_mapValues_iff (change : κ -> ν -> ν) (map : OrderedMap κ ν) :
    (map.mapValues change).sameEntries map = true ↔
      ∀ entry ∈ map.entries, change entry.1 entry.2 = entry.2 := by
  constructor
  · intro same entry entryIn
    have found := (get?_eq_some_iff map entry.1 entry.2).2 entryIn
    have answer := (sameEntries_iff_get? _ _).1 same entry.1
    rw [get?_mapValues, found, Option.map_some] at answer
    exact Option.some.inj answer
  · intro still
    have kept : (map.mapValues change).entries = map.entries := by
      refine (List.map_congr_left fun entry entryIn => ?_).trans (List.map_id _)
      exact Prod.ext rfl (still entry entryIn)
    rw [sameEntries_iff_perm, kept]

/-- A map put together from its entries in another order has the same entries. -/
theorem sameEntries_ofList
    {map : OrderedMap κ ν}
    {entries : List (κ × ν)}
    (permuted : entries.Perm map.entries) :
    (ofList entries).sameEntries map = true := by
  have distinct : (Entries.keys entries).Nodup :=
    (permuted.map Prod.fst).nodup_iff.2 map.distinct
  have together : (ofList entries).entries = entries :=
    entries_insertAll_of_distinct empty entries distinct
  rw [sameEntries_iff_perm, together]
  exact permuted

end SameEntries

end OrderedMap
end ObfuscationMap
