import ObfuscationMap.Proofs.Chain.Links
import ObfuscationMap.Proofs.Chain.TwoTables

/-!
# Grouping the tables of a chain

The chain of two tables with class entries alone is the link of their class entries. Three
such tables may therefore be chained in either grouping, if all their targets differ and
no source of a later table has been renamed away before it.
-/

namespace ObfuscationMap

/-- A table has class entries alone, and they lead from classes to classes. -/
structure MappingTable.OnlyClasses (table : MappingTable) : Prop where
  renamesClasses : table.RenamesClasses
  fields : table.fields = ∅
  methods : table.methods = ∅

namespace MappingTable

variable {left right : MappingTable}

theorem OnlyClasses.distinctTargets
    (onlyClasses : left.OnlyClasses)
    (distinct : left.classes.values.Nodup) :
    left.DistinctTargets where
  classes := distinct
  fields := onlyClasses.fields ▸ List.nodup_nil
  methods := onlyClasses.methods ▸ List.nodup_nil

theorem OnlyClasses.inverse (onlyClasses : left.OnlyClasses) : left.inverse.OnlyClasses where
  renamesClasses := onlyClasses.renamesClasses.inverse
  fields := by rw [MappingTable.inverse, onlyClasses.fields]; rfl
  methods := by rw [MappingTable.inverse, onlyClasses.methods]; rfl

theorem OnlyClasses.sameEntries_iff
    (leftOnly : left.OnlyClasses)
    (rightOnly : right.OnlyClasses) :
    left.sameEntries right = true ↔ left.classes.sameEntries right.classes = true := by
  rw [MappingTable.sameEntries_iff, leftOnly.fields, rightOnly.fields, leftOnly.methods,
    rightOnly.methods]
  exact and_iff_left ⟨rfl, rfl⟩

end MappingTable

namespace Chain

section OnlyClasses

variable {first second third : MappingTable}

/-- Two tables with class entries alone are chained by linking their classes. -/
theorem classes_chain_pair
    (firstOnly : first.OnlyClasses)
    (secondOnly : second.OnlyClasses)
    (distinct : first.classes.values.Nodup) :
    (chain [.stored first, .stored second]).classes = link first.classes second.classes := by
  have alone := chain_singleton (firstOnly.distinctTargets distinct)
  have classTargets : ∀ target ∈ (chain [.stored first]).classes.values,
      target.isClass = true := by
    rw [alone]
    exact firstOnly.renamesClasses.classTargets
  have claims : ∀ target ∈ second.classes.values,
      (∃ other ∈ [Layer.stored first], target ∈ other.entries.classes.values) ↔
        target ∈ (chain [.stored first]).classes.values := by
    intro target _
    rw [alone]
    simp [Layer.entries]
  have linked := classes_chain_append_stored classTargets
    secondOnly.renamesClasses.classSources claims
  rw [alone] at linked
  exact linked

theorem onlyClasses_chain_pair
    (firstOnly : first.OnlyClasses)
    (secondOnly : second.OnlyClasses)
    (distinct : first.classes.values.Nodup) :
    (chain [.stored first, .stored second]).OnlyClasses where
  renamesClasses := by
    have pair : ∀ table ∈ [first, second], table.RenamesClasses := by
      simp [firstOnly.renamesClasses, secondOnly.renamesClasses]
    exact renamesClasses_chain pair
  fields := by
    rw [chain_pair (firstOnly.distinctTargets distinct)]
    simp only [firstOnly.fields, secondOnly.fields, carry_own_empty]
    rfl
  methods := by
    rw [chain_pair (firstOnly.distinctTargets distinct)]
    simp only [firstOnly.methods, secondOnly.methods, carry_own_empty]
    rfl

/-- Three tables with class entries alone, and with targets that all differ, may be chained
in either grouping: if a source of the second is also one of the first, the first must
produce it, and the second must rename no source of the third that the first produces. -/
theorem sameEntries_chain_assoc
    (firstOnly : first.OnlyClasses)
    (secondOnly : second.OnlyClasses)
    (thirdOnly : third.OnlyClasses)
    (distinct : (first.classes.values ++ second.classes.values ++
      third.classes.values).Nodup)
    (kept : ∀ source ∈ second.classes.keys, source ∈ first.classes.keys ->
      source ∈ first.classes.values)
    (fresh : ∀ source ∈ third.classes.keys,
      ¬(source ∈ first.classes.values ∧ source ∈ second.classes.keys)) :
    (chain [.stored first, .stored (chain [.stored second, .stored third])]).sameEntries
      (chain [.stored (chain [.stored first, .stored second]), .stored third]) = true := by
  have firstDistinct := distinct.of_append_left.of_append_left
  have secondDistinct := distinct.of_append_left.of_append_right
  have firstSecond := Linkable.of_nodup distinct.of_append_left
  have firstThird := Linkable.of_nodup
    (distinct.sublist ((List.sublist_append_left _ _).append_right _))
  have secondThird := Linkable.of_nodup
    (distinct.sublist ((List.sublist_append_right _ _).append_right _))
  have lower := classes_chain_pair firstOnly secondOnly firstDistinct
  have upper := classes_chain_pair secondOnly thirdOnly secondDistinct
  have lowerOnly := onlyClasses_chain_pair firstOnly secondOnly firstDistinct
  have upperOnly := onlyClasses_chain_pair secondOnly thirdOnly secondDistinct
  have lowerDistinct : (chain [.stored first, .stored second]).classes.values.Nodup :=
    lower ▸ nodup_values_link firstSecond firstDistinct
  have leftOnly := onlyClasses_chain_pair firstOnly upperOnly firstDistinct
  have rightOnly := onlyClasses_chain_pair lowerOnly thirdOnly lowerDistinct
  rw [leftOnly.sameEntries_iff rightOnly, classes_chain_pair firstOnly upperOnly firstDistinct,
    classes_chain_pair lowerOnly thirdOnly lowerDistinct, lower, upper]
  exact sameEntries_link_assoc firstSecond firstThird secondThird kept fresh

/-- Two classes, one of which takes the name of the other. -/
def shiftingTable : MappingTable where
  classes := .ofList [(.ofLetter 'a', .ofLetter 'b'), (.ofLetter 'b', .ofLetter 'c')]

/-- A new name for the class that has taken a name. -/
def shiftedTable : MappingTable where
  classes := .ofList [(.ofLetter 'b', .ofLetter 'd')]

/-- Last names for both classes, and one for a class of another name. -/
def settlingTable : MappingTable where
  classes := .ofList [
    (.ofLetter 'd', .ofLetter 'x'), (.ofLetter 'c', .ofLetter 'y'),
    (.ofLetter 'e', .ofLetter 'z')]

/-- The name `b` is the old one of a class and the new one of another. -/
theorem sameEntries_chain_assoc_settlingTable :
    shiftingTable.OnlyClasses ∧ shiftedTable.OnlyClasses ∧ settlingTable.OnlyClasses ∧
    (shiftingTable.classes.values ++ shiftedTable.classes.values ++
      settlingTable.classes.values).Nodup ∧
    (∀ source ∈ shiftedTable.classes.keys, source ∈ shiftingTable.classes.keys ->
      source ∈ shiftingTable.classes.values) ∧
    (∀ source ∈ settlingTable.classes.keys,
      ¬(source ∈ shiftingTable.classes.values ∧ source ∈ shiftedTable.classes.keys)) ∧
    (chain [.stored shiftingTable,
        .stored (chain [.stored shiftedTable, .stored settlingTable])]).sameEntries
      (chain [.stored (chain [.stored shiftingTable, .stored shiftedTable]),
        .stored settlingTable]) = true := by
  have firstOnly : shiftingTable.OnlyClasses := ⟨by decide, rfl, rfl⟩
  have secondOnly : shiftedTable.OnlyClasses := ⟨by decide, rfl, rfl⟩
  have thirdOnly : settlingTable.OnlyClasses := ⟨by decide, rfl, rfl⟩
  have distinct : (shiftingTable.classes.values ++ shiftedTable.classes.values ++
      settlingTable.classes.values).Nodup := by decide
  have kept : ∀ source ∈ shiftedTable.classes.keys, source ∈ shiftingTable.classes.keys ->
      source ∈ shiftingTable.classes.values := by decide
  have fresh : ∀ source ∈ settlingTable.classes.keys,
      ¬(source ∈ shiftingTable.classes.values ∧ source ∈ shiftedTable.classes.keys) := by
    decide
  exact ⟨firstOnly, secondOnly, thirdOnly, distinct, kept, fresh,
    sameEntries_chain_assoc firstOnly secondOnly thirdOnly distinct kept fresh⟩

end OnlyClasses

end Chain
end ObfuscationMap
