import Mathlib.Data.List.Basic
import ObfuscationMap.Proofs.OrderedMap.Selection

/-!
# The history of a map

A map that is changed in steps can be told from the log of its changes alone: it has the
entries that were set and not overridden since, in the order in which their keys came in.
-/

namespace ObfuscationMap
namespace OrderedMap

variable {κ ν : Type} [DecidableEq κ]

/-! ## Changes -/

/-- A change of a map. -/
inductive Change (κ ν : Type)
  /-- The map stays as it is. -/
  | keep
  /-- A key is given a value. -/
  | set (key : κ) (value : ν)
  /-- A key is removed. -/
  | unset (key : κ)
  /-- The entries that satisfy a test stay. -/
  | select (test : κ -> ν -> Bool)

namespace Change

/-- Make a change. -/
def apply : Change κ ν -> OrderedMap κ ν -> OrderedMap κ ν
  | .keep, map => map
  | .set key value, map => map.insert key value
  | .unset key, map => map.erase key
  | .select test, map => map.filter test

/-- Whether a change leaves nothing of an entry that was there before: it sets or removes its
key, or the entry fails its test. -/
def Overrides (key : κ) (value : ν) : Change κ ν -> Prop
  | .keep => False
  | .set other _ => other = key
  | .unset other => other = key
  | .select test => test key value = false

/-- After a change a map has the entry that was set, and those that were not overridden. -/
theorem get?_apply_eq_some_iff
    (change : Change κ ν)
    (map : OrderedMap κ ν)
    (key : κ)
    (value : ν) :
    (change.apply map).get? key = some value ↔
      change = .set key value ∨ map.get? key = some value ∧ ¬change.Overrides key value := by
  cases change with
  | keep => simp [apply, Overrides]
  | set other given =>
      rw [apply, get?_insert, Overrides, Change.set.injEq]
      by_cases here : other = key
      · simp [here]
      · simp [here]
  | unset other =>
      rw [apply, get?_erase, Overrides]
      by_cases here : other = key
      · simp [here]
      · simp [here]
  | select test =>
      rw [apply, get?_filter, Option.filter_eq_some_iff, Overrides, Bool.not_eq_false]
      simp

/-- A change adds a key at the end, or it adds none and keeps the order of the others. -/
theorem keys_apply_cases (change : Change κ ν) (map : OrderedMap κ ν) :
    (change.apply map).keys.Sublist map.keys ∨
      ∃ key, key ∉ map.keys ∧ (change.apply map).keys = map.keys ++ [key] := by
  cases change with
  | keep => exact .inl (List.Sublist.refl _)
  | set key value =>
      rw [apply, keys_insert]
      split
      · exact .inl (List.Sublist.refl _)
      · next absent => exact .inr ⟨key, absent, rfl⟩
  | unset key => exact .inl (List.filter_sublist.map Prod.fst)
  | select test => exact .inl (List.filter_sublist.map Prod.fst)

/-- A change keeps what holds of all entries and of what it sets. -/
theorem forall_entries_apply
    {holds : κ × ν -> Prop}
    {change : Change κ ν}
    {map : OrderedMap κ ν}
    (before : ∀ entry ∈ map.entries, holds entry)
    (new : ∀ key value, change = .set key value -> holds (key, value)) :
    ∀ entry ∈ (change.apply map).entries, holds entry := by
  rintro ⟨key, value⟩ entryIn
  rw [← get?_eq_some_iff, get?_apply_eq_some_iff] at entryIn
  rcases entryIn with given | ⟨kept, -⟩
  · exact new key value given
  · exact before _ ((get?_eq_some_iff map key value).1 kept)

end Change

/-! ## Logs -/

/-- A key comes into a map at a step and stays there for all steps that follow. -/
structure InsertedAt (map : Nat -> OrderedMap κ ν) (steps step : Nat) (key : κ) : Prop where
  within : step < steps
  absent : key ∉ (map step).keys
  present : ∀ later, step < later -> later ≤ steps -> key ∈ (map later).keys

/-- A map is told by the log of its changes: its entries are those that a step set and no later
step overrode, in the order in which their keys came in to stay. -/
structure FollowsLog
    (map : Nat -> OrderedMap κ ν)
    (change : Nat -> Change κ ν)
    (steps : Nat) : Prop where
  lookup : ∀ key value, (map steps).get? key = some value ↔
    ∃ step < steps, change step = .set key value ∧
      ∀ later < steps, step < later -> ¬(change later).Overrides key value
  order : (map steps).keys.Pairwise fun left right =>
    ∃ first second, first < second ∧ InsertedAt map steps first left ∧
      InsertedAt map steps second right

section Log

variable {map : Nat -> OrderedMap κ ν} {change : Nat -> Change κ ν}

omit [DecidableEq κ] in
theorem InsertedAt.extend
    {steps step : Nat}
    {key : κ}
    (inserted : InsertedAt map steps step key)
    (kept : key ∈ (map (steps + 1)).keys) :
    InsertedAt map (steps + 1) step key where
  within := Nat.lt_succ_of_lt inserted.within
  absent := inserted.absent
  present later after bound := by
    rcases Nat.le_succ_iff.1 bound with before | rfl
    · exact inserted.present later after before
    · exact kept

/-- Every key has come in at some step. -/
theorem exists_insertedAt
    (start : map 0 = ∅)
    {steps : Nat}
    {key : κ}
    (keyIn : key ∈ (map steps).keys) :
    ∃ step, InsertedAt map steps step key := by
  induction steps with
  | zero =>
      rw [start] at keyIn
      exact absurd keyIn List.not_mem_nil
  | succ steps earlier =>
      by_cases before : key ∈ (map steps).keys
      · obtain ⟨step, inserted⟩ := earlier before
        exact ⟨step, inserted.extend keyIn⟩
      · refine ⟨steps, Nat.lt_succ_self steps, before, fun later after bound => ?_⟩
        rwa [Nat.le_antisymm bound after]

section Runs

variable (start : map 0 = ∅)
variable (runs : ∀ step, map (step + 1) = (change step).apply (map step))
include start runs

theorem get?_eq_some_iff_of_runs (steps : Nat) (key : κ) (value : ν) :
    (map steps).get? key = some value ↔
      ∃ step < steps, change step = .set key value ∧
        ∀ later < steps, step < later -> ¬(change later).Overrides key value := by
  induction steps with
  | zero =>
      rw [start]
      refine iff_of_false (fun absurdEntry => nomatch absurdEntry) ?_
      rintro ⟨step, impossible, -⟩
      exact Nat.not_lt_zero step impossible
  | succ steps before =>
      rw [runs, Change.get?_apply_eq_some_iff, before]
      constructor
      · rintro (given | ⟨⟨step, within, given, kept⟩, keeps⟩)
        · refine ⟨steps, Nat.lt_succ_self steps, given, fun later bound after => ?_⟩
          exact absurd after (Nat.not_lt_of_le (Nat.le_of_lt_succ bound))
        · refine ⟨step, Nat.lt_succ_of_lt within, given, fun later bound after => ?_⟩
          rcases Nat.lt_succ_iff_lt_or_eq.1 bound with earlier | rfl
          · exact kept later earlier after
          · exact keeps
      · rintro ⟨step, within, given, kept⟩
        rcases Nat.lt_succ_iff_lt_or_eq.1 within with earlier | rfl
        · refine .inr ⟨⟨step, earlier, given, fun later bound => ?_⟩, ?_⟩
          · exact kept later (Nat.lt_succ_of_lt bound)
          · exact kept steps (Nat.lt_succ_self steps) earlier
        · exact .inl given

theorem pairwise_keys_of_runs (steps : Nat) :
    (map steps).keys.Pairwise fun left right =>
      ∃ first second, first < second ∧ InsertedAt map steps first left ∧
        InsertedAt map steps second right := by
  induction steps with
  | zero =>
      rw [start]
      exact List.Pairwise.nil
  | succ steps before =>
      have shape := Change.keys_apply_cases (change steps) (map steps)
      rw [← runs] at shape
      rcases shape with fewer | ⟨key, new, more⟩
      · -- The keys that are still there have stayed since they came in.
        refine (before.sublist fewer).imp_of_mem ?_
        rintro left right leftIn rightIn ⟨first, second, sooner, leftAt, rightAt⟩
        exact ⟨first, second, sooner, leftAt.extend leftIn, rightAt.extend rightIn⟩
      · have kept : ∀ other ∈ (map steps).keys, other ∈ (map (steps + 1)).keys := by
          intro other otherIn
          rw [more]
          exact List.mem_append_left _ otherIn
        have newAt : InsertedAt map (steps + 1) steps key := by
          refine ⟨Nat.lt_succ_self steps, new, fun later after bound => ?_⟩
          rw [Nat.le_antisymm bound after, more]
          exact List.mem_append_right _ (List.mem_singleton_self key)
        rw [more, List.pairwise_append]
        refine ⟨before.imp_of_mem ?_, List.pairwise_singleton _ key, ?_⟩
        · rintro left right leftIn rightIn ⟨first, second, sooner, leftAt, rightAt⟩
          exact ⟨first, second, sooner, leftAt.extend (kept left leftIn),
            rightAt.extend (kept right rightIn)⟩
        · intro left leftIn other otherIn
          obtain rfl := List.mem_singleton.1 otherIn
          obtain ⟨first, leftAt⟩ := exists_insertedAt start leftIn
          exact ⟨first, steps, leftAt.within, leftAt.extend (kept left leftIn), newAt⟩

/-- A map that is changed in steps is told by the log of its changes. -/
theorem followsLog (steps : Nat) : FollowsLog map change steps where
  lookup := get?_eq_some_iff_of_runs start runs steps
  order := pairwise_keys_of_runs start runs steps

end Runs

end Log

end OrderedMap
end ObfuscationMap
