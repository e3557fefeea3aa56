import Mathlib.Data.List.Forall2
import ObfuscationMap.Proofs.Chain.Alike

/-!
# The order of entries in a chain

Tables may list the same entries in another order. The classes of a chain do not depend on
it, as long as no target occurs twice in one table. Its members do in two ways. The source
of a new entry may name a class that several classes of the chain have become; inverting the
chain then depends on which of them comes last. And several new entries of one table may be
led back to one source; the last of them stands. Without either the members do not depend
on the order.
-/

namespace ObfuscationMap

/-- Lists that correspond entry by entry do so up to their last entries. -/
theorem exists_of_forall₂_append_singleton
    {α β : Type}
    {related : α -> β -> Prop}
    {init : List α}
    {last : α}
    {whole : List β}
    (same : List.Forall₂ related (init ++ [last]) whole) :
    ∃ otherInit otherLast, whole = otherInit ++ [otherLast] ∧
      List.Forall₂ related init otherInit ∧ related last otherLast := by
  induction init generalizing whole with
  | nil =>
      obtain ⟨otherLast, rest, lastSame, restSame, rfl⟩ := List.forall₂_cons_left_iff.1 same
      obtain rfl := List.forall₂_nil_left_iff.1 restSame
      exact ⟨[], otherLast, rfl, .nil, lastSame⟩
  | cons first init step =>
      obtain ⟨otherFirst, rest, firstSame, restSame, rfl⟩ := List.forall₂_cons_left_iff.1 same
      obtain ⟨otherInit, otherLast, rfl, initSame, lastSame⟩ := step restSame
      exact ⟨otherFirst :: otherInit, otherLast, rfl, .cons firstSame initSame, lastSame⟩

namespace MappingTable

/-- A table with class entries between classes and with distinct targets, and one with the
same entries in whatever order. -/
structure Reordering (left right : MappingTable) : Prop where
  sameEntries : left.sameEntries right = true
  renamesClasses : left.RenamesClasses
  distinct : left.DistinctTargets

namespace Reordering

variable {left right : MappingTable}

theorem toRenaming_eq (same : left.Reordering right) : left.toRenaming = right.toRenaming := by
  obtain ⟨classes, fields, methods⟩ := (sameEntries_iff left right).1 same.sameEntries
  rw [OrderedMap.sameEntries_iff_get?] at classes fields methods
  rw [toRenaming, toRenaming, funext classes, funext fields, funext methods]

theorem sameLayer_classes (same : left.Reordering right) :
    EntryKind.classes.SameLayer (.stored left) (.stored right) :=
  .of_sameEntries same.toRenaming_eq ((sameEntries_iff left right).1 same.sameEntries).1
    same.distinct.classes

theorem sameLayer_fields (same : left.Reordering right) :
    EntryKind.fields.SameLayer (.stored left) (.stored right) :=
  .of_sameEntries same.toRenaming_eq ((sameEntries_iff left right).1 same.sameEntries).2.1
    same.distinct.fields

theorem sameLayer_methods (same : left.Reordering right) :
    EntryKind.methods.SameLayer (.stored left) (.stored right) :=
  .of_sameEntries same.toRenaming_eq ((sameEntries_iff left right).1 same.sameEntries).2.2
    same.distinct.methods

theorem rightSources (same : left.Reordering right) : right.ClassSources := by
  intro source key
  have answers := same.sameLayer_classes.answers
  exact same.renamesClasses.classSources source ((OrderedMap.mem_keys_congr answers source).2 key)

end Reordering
end MappingTable

namespace Chain

/-- Reorderings of tables make chains of classes that are alike. -/
theorem alike_classes
    {left right : List MappingTable}
    (same : List.Forall₂ MappingTable.Reordering left right) :
    EntryKind.classes.Alike (left.map .stored) (right.map .stored) := by
  induction left using List.reverseRecOn generalizing right with
  | nil =>
      obtain rfl := List.forall₂_nil_left_iff.1 same
      exact EntryKind.alike_nil EntryKind.classes
  | append_singleton left last step =>
      obtain ⟨init, otherLast, rfl, initSame, lastSame⟩ :=
        exists_of_forall₂_append_singleton same
      rw [List.map_append, List.map_append]
      exact (step initSame).classes_append_singleton lastSame.sameLayer_classes
        lastSame.renamesClasses.classSources lastSame.rightSources

/-- Reorderings of tables that are unambiguous make chains of members that are alike. -/
theorem alike_members
    {μ : Type}
    [DecidableEq μ]
    {kind : MemberKind μ}
    (sameLayer : ∀ before after : MappingTable, before.Reordering after ->
      kind.SameLayer (.stored before) (.stored after))
    {left right : List MappingTable}
    (same : List.Forall₂ MappingTable.Reordering left right)
    (unambiguous : ∀ before table after, left = before ++ table :: after ->
      kind.Unambiguous (before.map .stored) (.stored table)) :
    kind.Alike (left.map .stored) (right.map .stored) := by
  induction left using List.reverseRecOn generalizing right with
  | nil =>
      obtain rfl := List.forall₂_nil_left_iff.1 same
      exact EntryKind.alike_nil kind.toEntryKind
  | append_singleton left last step =>
      obtain ⟨init, otherLast, rfl, initSame, lastSame⟩ :=
        exists_of_forall₂_append_singleton same
      have members := step initSame fun before table after split =>
        unambiguous before table (after ++ [last]) (by rw [split, List.append_assoc]; rfl)
      have lastUnambiguous := unambiguous left last [] rfl
      rw [List.map_append, List.map_append]
      exact lastUnambiguous.alike_append_singleton (alike_classes initSame) members
        (sameLayer last otherLast lastSame)

/-- Tables with their entries in another order make chains with the same classes. The
chains have the same members of a kind too, if each table is unambiguous after those
before it. -/
theorem sameEntries_chain_reordering
    {left right : List MappingTable}
    (same : List.Forall₂ MappingTable.Reordering left right) :
    (chain (left.map .stored)).classes.sameEntries (chain (right.map .stored)).classes = true ∧
    ((∀ before table after, left = before ++ table :: after ->
        MemberKind.fields.Unambiguous (before.map .stored) (.stored table)) ->
      (chain (left.map .stored)).fields.sameEntries (chain (right.map .stored)).fields = true) ∧
    ((∀ before table after, left = before ++ table :: after ->
        MemberKind.methods.Unambiguous (before.map .stored) (.stored table)) ->
      (chain (left.map .stored)).methods.sameEntries
        (chain (right.map .stored)).methods = true) := by
  simp only [OrderedMap.sameEntries_iff_get?]
  refine ⟨(alike_classes same).answers, ?fields, ?methods⟩
  case fields =>
    intro unambiguous
    have sameLayer (before after : MappingTable) (reordering : before.Reordering after) :
        MemberKind.fields.SameLayer (.stored before) (.stored after) :=
      reordering.sameLayer_fields
    exact (alike_members sameLayer same unambiguous).answers
  case methods =>
    intro unambiguous
    have sameLayer (before after : MappingTable) (reordering : before.Reordering after) :
        MemberKind.methods.SameLayer (.stored before) (.stored after) :=
      reordering.sameLayer_methods
    exact (alike_members sameLayer same unambiguous).answers

/-- The lower table with its classes in the other order. -/
def reorderedLowerTable : MappingTable where
  classes := .ofList [(.ofLetter 'c', .ofLetter 'd'), (.ofLetter 'a', .ofLetter 'b')]
  methods := lowerTable.methods

theorem reordering_lowerTable : lowerTable.Reordering reorderedLowerTable where
  sameEntries := by decide
  renamesClasses := by decide
  distinct := ⟨by decide, by decide, by decide⟩

/-- The upper table is unambiguous after the lower one. -/
theorem sameEntries_chain_reordering_lowerTable :
    List.Forall₂ MappingTable.Reordering [lowerTable, upperTable]
      [reorderedLowerTable, upperTable] ∧
    (∀ before table after, [lowerTable, upperTable] = before ++ table :: after ->
      MemberKind.fields.Unambiguous (before.map .stored) (.stored table) ∧
        MemberKind.methods.Unambiguous (before.map .stored) (.stored table)) ∧
    (chain [.stored lowerTable, .stored upperTable]).sameEntries
      (chain [.stored reorderedLowerTable, .stored upperTable]) = true := by
  have upper : upperTable.Reordering upperTable :=
    ⟨by decide, by decide, by decide, by decide, by decide⟩
  have same : List.Forall₂ MappingTable.Reordering [lowerTable, upperTable]
      [reorderedLowerTable, upperTable] := .cons reordering_lowerTable (.cons upper .nil)
  have unambiguous : ∀ before table after,
      [lowerTable, upperTable] = before ++ table :: after ->
        MemberKind.fields.Unambiguous (before.map .stored) (.stored table) ∧
          MemberKind.methods.Unambiguous (before.map .stored) (.stored table) := by
    rintro before table after split
    rcases before with _ | ⟨first, _ | ⟨second, before⟩⟩
    · obtain ⟨rfl, -⟩ := List.cons.inj split
      decide
    · obtain ⟨rfl, rest⟩ := List.cons.inj split
      obtain ⟨rfl, -⟩ := List.cons.inj rest
      decide
    · simp at split
  have chained := sameEntries_chain_reordering same
  refine ⟨same, unambiguous, (MappingTable.sameEntries_iff _ _).2 ⟨chained.1, ?_, ?_⟩⟩
  · exact chained.2.1 fun before table after split => (unambiguous before table after split).1
  · exact chained.2.2 fun before table after split => (unambiguous before table after split).2

/-- A table that gives one class of the lower table the name of the other. -/
def mergingTable : MappingTable where
  classes := .ofList [(.ofLetter 'b', .ofLetter 'd')]

/-- A table with a field of the two merged classes. -/
def mergedFieldTable : MappingTable where
  fields := .ofList [
    (⟨.ofLetter 'd', .ofLetter 'x'⟩, ⟨.ofLetter 'd', .ofLetter 'y'⟩)]

/-- The colliding table with its fields in the other order. -/
def reorderedCollidingTable : MappingTable where
  fields := .ofList [
    (⟨.ofLetter 'a', .ofLetter 'x'⟩, ⟨.ofLetter 'b', .ofLetter 'z'⟩),
    (⟨.ofLetter 'b', .ofLetter 'x'⟩, ⟨.ofLetter 'b', .ofLetter 'y'⟩)]

/-- The order of entries decides which of two merged classes has a field, and which of two
fields that are led back to one is kept. -/
theorem not_sameEntries_chain_reordering :
    (List.Forall₂ MappingTable.Reordering [lowerTable, mergingTable, mergedFieldTable]
        [reorderedLowerTable, mergingTable, mergedFieldTable] ∧
      (chain [.stored lowerTable, .stored mergingTable, .stored mergedFieldTable]).sameEntries
        (chain [.stored reorderedLowerTable, .stored mergingTable,
          .stored mergedFieldTable]) = false) ∧
    List.Forall₂ MappingTable.Reordering [lowerTable, collidingTable]
        [lowerTable, reorderedCollidingTable] ∧
      (chain [.stored lowerTable, .stored collidingTable]).sameEntries
        (chain [.stored lowerTable, .stored reorderedCollidingTable]) = false := by
  have lower : lowerTable.Reordering lowerTable :=
    ⟨by decide, by decide, by decide, by decide, by decide⟩
  have merging : mergingTable.Reordering mergingTable :=
    ⟨by decide, by decide, by decide, by decide, by decide⟩
  have mergedField : mergedFieldTable.Reordering mergedFieldTable :=
    ⟨by decide, by decide, by decide, by decide, by decide⟩
  have colliding : collidingTable.Reordering reorderedCollidingTable :=
    ⟨by decide, by decide, by decide, by decide, by decide⟩
  refine ⟨⟨?_, by decide⟩, ?_, by decide⟩
  · exact .cons reordering_lowerTable (.cons merging (.cons mergedField .nil))
  · exact .cons lower (.cons colliding .nil)

end Chain
end ObfuscationMap
