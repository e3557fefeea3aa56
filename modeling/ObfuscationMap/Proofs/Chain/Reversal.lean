import ObfuscationMap.Proofs.Chain.Associativity
import ObfuscationMap.Proofs.OrderedMap.Inversion

/-!
# Inverting a chain

The inverse of a link is the link of the inverses, in reverse order, if its maps share no
source and no target. An entry that the link carries on then becomes one that the other link
carries on as well, or one that it brings, and so does an entry that the link brings. Tables
with class entries alone are chained by linking them, so inverting reverses their chain.
-/

namespace ObfuscationMap
namespace Chain

section Links

variable {α : Type}

/-- Two maps with distinct targets that share no source and no target. -/
structure Reversible [DecidableEq α] (first second : OrderedMap α α) : Prop where
  firstDistinct : first.values.Nodup
  secondDistinct : second.values.Nodup
  targetsApart : ∀ target ∈ second.values, target ∉ first.values
  sourcesApart : ∀ source ∈ second.keys, source ∉ first.keys

variable [DecidableEq α] {first second : OrderedMap α α}

theorem Reversible.linkable (reversible : Reversible first second) : Linkable first second :=
  ⟨reversible.secondDistinct, reversible.targetsApart⟩

/-- The inverses in reverse order are reversible again. -/
theorem Reversible.inverses (reversible : Reversible first second) :
    Reversible second.inverse first.inverse where
  firstDistinct := second.nodup_values_inverse
  secondDistinct := first.nodup_values_inverse
  targetsApart source := by
    rw [OrderedMap.mem_values_inverse_of_nodup reversible.firstDistinct,
      OrderedMap.mem_values_inverse_of_nodup reversible.secondDistinct]
    exact fun early late => reversible.sourcesApart source late early
  sourcesApart target := by
    rw [OrderedMap.mem_keys_inverse, OrderedMap.mem_keys_inverse]
    exact fun early late => reversible.targetsApart target late early

/-- The link of the inverses leads back what the link leads on. -/
theorem Reversible.get?_link_inverse
    (reversible : Reversible first second)
    {source target : α}
    (linked : (link first second).get? source = some target) :
    (link second.inverse first.inverse).get? target = some source := by
  have linkable := reversible.inverses.linkable
  rcases (get?_link_eq_some_iff reversible.linkable source target).1 linked with
    ⟨middle, found, led⟩ | ⟨-, unproduced, brought⟩
  · have undone := OrderedMap.get?_inverse_of_get? reversible.firstDistinct found
    cases renamed : second.get? middle with
    | some value =>
        rw [OrderedMap.follow_of_get?_eq_some renamed] at led
        subst led
        have back := OrderedMap.get?_inverse_of_get? reversible.secondDistinct renamed
        rw [get?_link_of_get?_eq_some linkable back, OrderedMap.follow_of_get?_eq_some undone]
    | none =>
        -- The second map has neither an entry for the target nor one that leads to it.
        rw [OrderedMap.follow_of_get?_eq_none renamed] at led
        subst led
        have produced := OrderedMap.mem_values_of_get?_eq_some found
        have unled : second.inverse.get? middle = none := by
          rw [OrderedMap.get?_inverse_eq_none_iff]
          exact fun late => reversible.targetsApart middle late produced
        have unnamed : middle ∉ second.inverse.values := by
          rwa [OrderedMap.mem_values_inverse_of_nodup reversible.secondDistinct,
            ← OrderedMap.get?_eq_none_iff]
        rw [get?_link_of_get?_eq_none linkable unled, if_neg unnamed, undone]
  · have back := OrderedMap.get?_inverse_of_get? reversible.secondDistinct brought
    have still := OrderedMap.follow_of_get?_eq_none
      ((OrderedMap.get?_inverse_eq_none_iff first source).2 unproduced)
    rw [get?_link_of_get?_eq_some linkable back, still]

/-- The inverse of a link has the same entries as the link of the inverses. -/
theorem sameEntries_inverse_link (reversible : Reversible first second) :
    (link first second).inverse.sameEntries (link second.inverse first.inverse) = true := by
  have inverses := reversible.inverses
  have linkDistinct := nodup_values_link reversible.linkable reversible.firstDistinct
  have restored {map : OrderedMap α α} (distinct : map.values.Nodup) :
      ∀ source, map.inverse.inverse.get? source = map.get? source :=
    (OrderedMap.sameEntries_iff_get? _ _).1
      (map.sameEntries_inverse_inverse_self_iff.2 distinct)
  rw [OrderedMap.sameEntries_iff_get?]
  intro target
  apply Option.ext
  intro source
  rw [OrderedMap.get?_inverse_eq_some_iff_of_nodup linkDistinct]
  refine ⟨reversible.get?_link_inverse, fun linked => ?_⟩
  -- Led back twice, an entry comes from the link of the double inverses.
  have twice := inverses.get?_link_inverse linked
  rwa [get?_link_congr inverses.inverses.linkable reversible.linkable
    (restored reversible.firstDistinct) (restored reversible.secondDistinct)] at twice

end Links

section Tables

variable {first second : MappingTable}

/-- Inverting the chain of two tables with class entries alone, without repeated targets and
with no source or target in common, reverses it: the inverse of the second comes first. -/
theorem sameEntries_inverse_chain
    (firstOnly : first.OnlyClasses)
    (secondOnly : second.OnlyClasses)
    (reversible : Reversible first.classes second.classes) :
    (chain [.stored first, .stored second]).inverse.sameEntries
      (chain [.stored second.inverse, .stored first.inverse]) = true := by
  have inverses : Reversible second.inverse.classes first.inverse.classes :=
    reversible.inverses
  have chained := classes_chain_pair firstOnly secondOnly reversible.firstDistinct
  have reversed := classes_chain_pair secondOnly.inverse firstOnly.inverse
    inverses.firstDistinct
  have chainedOnly := onlyClasses_chain_pair firstOnly secondOnly reversible.firstDistinct
  have reversedOnly := onlyClasses_chain_pair secondOnly.inverse firstOnly.inverse
    inverses.firstDistinct
  rw [chainedOnly.inverse.sameEntries_iff reversedOnly, reversed]
  change (chain [.stored first, .stored second]).classes.inverse.sameEntries _ = true
  rw [chained]
  exact sameEntries_inverse_link reversible

/-- New names for two classes. -/
def departingTable : MappingTable where
  classes := .ofList [(.ofLetter 'a', .ofLetter 'b'), (.ofLetter 'c', .ofLetter 'd')]

/-- The old name for one of them again, and a new one for a further class. -/
def returningTable : MappingTable where
  classes := .ofList [(.ofLetter 'b', .ofLetter 'a'), (.ofLetter 'f', .ofLetter 'g')]

/-- One class is renamed by both tables, one by the first alone, and one by the second
alone. -/
theorem sameEntries_inverse_chain_returningTable :
    departingTable.OnlyClasses ∧ returningTable.OnlyClasses ∧
    Reversible departingTable.classes returningTable.classes ∧
    (chain [.stored departingTable, .stored returningTable]).inverse.sameEntries
      (chain [.stored returningTable.inverse, .stored departingTable.inverse]) = true := by
  have firstOnly : departingTable.OnlyClasses := ⟨by decide, rfl, rfl⟩
  have secondOnly : returningTable.OnlyClasses := ⟨by decide, rfl, rfl⟩
  have reversible : Reversible departingTable.classes returningTable.classes :=
    ⟨by decide, by decide, by decide, by decide⟩
  exact ⟨firstOnly, secondOnly, reversible,
    sameEntries_inverse_chain firstOnly secondOnly reversible⟩

end Tables

end Chain
end ObfuscationMap
