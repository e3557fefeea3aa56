import ObfuscationMap.Proofs.Chain.Lookup

/-!
# Chains of two maps

A map carried through a second one answers as the two do in turn, unless an entry of
the second gets in the way. Such an entry is stale: leading its source back and on
again does not restore it, so it can stand for a source where another one belongs.
-/

namespace ObfuscationMap
namespace Chain

variable {α : Type} [DecidableEq α]

/-- An entry of the second map stands for a source in the chain: the first map does
not have the source, and the entry is the last that is led back to it. -/
structure StandsFor
    (first second : OrderedMap α α)
    (leadBack : α -> α)
    (source other target : α) : Prop where
  newSource : source ∉ first.keys
  ledBack : leadBack other = source
  last : ∃ earlier later, second.entries = earlier ++ (other, target) :: later ∧
    ∀ entry ∈ later, leadBack entry.1 ≠ source

theorem own_eq_ofList
    {leadBack : α -> α}
    {claimed : List α}
    {layer : OrderedMap α α}
    (distinct : layer.values.Nodup)
    (free : ∀ target ∈ layer.values, target ∉ claimed) :
    own leadBack claimed layer =
      .ofList (layer.entries.map fun entry => (leadBack entry.1, entry.2)) := by
  rw [own, unclaimed_eq_self distinct free]

/-- A layer without led back sources brings its entries as they are. -/
theorem own_eq_self
    {leadBack : α -> α}
    {layer : OrderedMap α α}
    (distinct : layer.values.Nodup)
    (still : ∀ source, leadBack source = source) :
    own leadBack [] layer = layer := by
  apply OrderedMap.ext
  rw [entries_own_of_still still, unclaimed_eq_self distinct fun _ _ => List.not_mem_nil]

/-- For a source that the first map does not have, the chain has the entry that
stands for it. -/
theorem get?_own_eq_some_iff
    {first second : OrderedMap α α}
    {leadBack : α -> α}
    (distinct : second.values.Nodup)
    (free : ∀ target ∈ second.values, target ∉ first.values)
    {source : α}
    (newSource : source ∉ first.keys)
    (target : α) :
    (own leadBack first.values second).get? source = some target ↔
      ∃ other, StandsFor first second leadBack source other target := by
  rw [own_eq_ofList distinct free, OrderedMap.get?_ofList,
    Entries.find?_reverse_map_key_eq_some_iff]
  constructor
  · rintro ⟨earlier, other, later, split, led, elsewhere⟩
    exact ⟨other, newSource, led, earlier, later, split, elsewhere⟩
  · rintro ⟨other, -, led, earlier, later, split, elsewhere⟩
    exact ⟨earlier, other, later, split, led, elsewhere⟩

theorem ne_leadBack_of_get?_own_eq_none
    {leadBack : α -> α}
    {claimed : List α}
    {layer : OrderedMap α α}
    (distinct : layer.values.Nodup)
    (free : ∀ target ∈ layer.values, target ∉ claimed)
    {source : α}
    (absent : (own leadBack claimed layer).get? source = none) :
    ∀ other ∈ layer.keys, leadBack other ≠ source := by
  rw [own_eq_ofList distinct free, OrderedMap.get?_ofList, Entries.find?_eq_none_iff,
    Entries.keys, List.map_reverse, List.mem_reverse, List.map_map] at absent
  rintro other otherKey rfl
  obtain ⟨entry, entryIn, rfl⟩ := List.mem_map.1 otherKey
  exact absent (List.mem_map_of_mem (f := fun entry => leadBack entry.1) entryIn)

theorem StandsFor.get?_eq_some
    {first second : OrderedMap α α}
    {leadBack : α -> α}
    {source other target : α}
    (stands : StandsFor first second leadBack source other target) :
    second.get? other = some target := by
  obtain ⟨earlier, later, split, -⟩ := stands.last
  rw [OrderedMap.get?_eq_some_iff, split]
  simp

theorem StandsFor.mem_keys
    {first second : OrderedMap α α}
    {leadBack : α -> α}
    {source other target : α}
    (stands : StandsFor first second leadBack source other target) :
    other ∈ second.keys :=
  OrderedMap.mem_keys_of_get?_eq_some stands.get?_eq_some

/-- A key that is led back to a source without an entry is not led by an entry. -/
theorem StandsFor.unproduced
    {first second : OrderedMap α α}
    {back leadBack : α -> α}
    (leads : ∀ other ∈ second.keys,
      leadBack other = (first.inverse.get? other).getD (back other))
    {source other target : α}
    (stands : StandsFor first second leadBack source other target) :
    first.inverse.get? other = none ∧ back other = source := by
  have led := stands.ledBack
  rw [leads other stands.mem_keys] at led
  cases there : first.inverse.get? other with
  | none => exact ⟨rfl, by rwa [there] at led⟩
  | some old =>
      rw [there, Option.getD_some] at led
      have key := OrderedMap.mem_keys_of_get?_inverse there
      exact absurd (led ▸ key) stands.newSource

/-- Two maps in a row against their chain, at one source. A source without an entry
is led on by `follow`, and a key of the second map that the first does not produce
is led back by `back`. -/
theorem getD_carry_own_eq_iff
    {first second : OrderedMap α α}
    (follow back leadBack rename : α -> α)
    (stale : α -> Prop)
    {source rest : α}
    (distinct : second.values.Nodup)
    (free : ∀ target ∈ second.values, target ∉ first.values)
    (leads : ∀ other ∈ second.keys,
      leadBack other = (first.inverse.get? other).getD (back other))
    (redone : ∀ other, ¬stale other -> follow (back other) = other)
    (undone : back (follow source) = source)
    (outside : source ∈ first.keys ∨ follow source ∉ first.values)
    (renamed : rename (follow source) = (second.get? (follow source)).getD rest) :
    ((carry rename first (own leadBack first.values second)).get? source).getD rest =
        rename ((first.get? source).getD (follow source)) ↔
      ∀ other target, StandsFor first second leadBack source other target ->
        stale other ->
        target = rename ((first.get? source).getD (follow source)) := by
  rw [get?_carry]
  cases found : first.get? source with
  | some value =>
      rw [Option.map_some, Option.some_or, Option.getD_some, Option.getD_some]
      have key := OrderedMap.mem_keys_of_get?_eq_some found
      refine ⟨fun _ other target stands => absurd key stands.newSource, fun _ => rfl⟩
  | none =>
      have newSource := (OrderedMap.get?_eq_none_iff _ _).1 found
      have unproduced := outside.resolve_left newSource
      have stays : first.inverse.get? (follow source) = none :=
        (OrderedMap.get?_inverse_eq_none_iff _ _).2 unproduced
      rw [Option.map_none, Option.none_or, Option.getD_none]
      constructor
      · intro equal other target stands _
        have brought : (own leadBack first.values second).get? source = some target :=
          (get?_own_eq_some_iff distinct free newSource target).2 ⟨other, stands⟩
        rwa [brought, Option.getD_some] at equal
      · intro harmless
        cases brought : (own leadBack first.values second).get? source with
        | none =>
            -- The key `follow source` would be led back to the source.
            have elsewhere := ne_leadBack_of_get?_own_eq_none distinct free brought
            have absent : second.get? (follow source) = none := by
              rw [OrderedMap.get?_eq_none_iff]
              intro key
              apply elsewhere (follow source) key
              rw [leads (follow source) key, stays, Option.getD_none, undone]
            rw [renamed, absent]
        | some target =>
            obtain ⟨other, stands⟩ :=
              (get?_own_eq_some_iff distinct free newSource target).1 brought
            by_cases old : stale other
            · exact harmless other target stands old
            · have same : follow source = other := by
                rw [← (stands.unproduced leads).2, redone other old]
              rw [renamed, same, stands.get?_eq_some]

end Chain
end ObfuscationMap
