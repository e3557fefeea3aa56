import ObfuscationMap.Proofs.Chain.Transforms
import ObfuscationMap.Proofs.PackageMoves.Relocation

/-!
# Moving the packages of tables with repeated targets

Moving packages chains the moves onto the table. The moves only relocate targets, but the
chain takes over the first of the entries with one target and drops the others, even if no
package is moved. Only where the moves are refused does the table stay as it is.
-/

namespace ObfuscationMap

theorem JavaType.relocate_eq_self
    {answer : Text -> Option Text}
    {type : JavaType}
    (unanswered : ∀ name, type.innermost = .reference name ->
      answeredPackage? answer name.package = none) :
    type.relocate answer = type := by
  have still : type.relocate answer = type.mapClass .reference := by
    apply mapClass_congr
    intro name inside
    rw [ClassName.relocate, unanswered name inside]
  rw [still, mapClass_reference]

namespace MappingTable

/-- A function answers with a package for no target package. -/
def LeavesPackages (table : MappingTable) (answer : Text -> Option Text) : Prop :=
  ∀ package ∈ table.targetPackages, answeredPackage? answer package = none

/-- A function answers with a package for no target package with a dollar sign, from which
no move can start. -/
def LeavesDollarPackages (table : MappingTable) (answer : Text -> Option Text) : Prop :=
  ∀ package ∈ table.targetPackages, '$' ∈ package -> answeredPackage? answer package = none

instance (table : MappingTable) (answer : Text -> Option Text) :
    Decidable (table.LeavesPackages answer) :=
  inferInstanceAs (Decidable (∀ _ ∈ _, _))

instance (table : MappingTable) (answer : Text -> Option Text) :
    Decidable (table.LeavesDollarPackages answer) :=
  inferInstanceAs (Decidable (∀ _ ∈ _, _ -> _))

section Moving

variable {table : MappingTable} {answer : Text -> Option Text}

theorem LeavesPackages.leavesDollarPackages (leaves : table.LeavesPackages answer) :
    table.LeavesDollarPackages answer :=
  fun package packageIn _ => leaves package packageIn

theorem leavesDollarPackages_iff :
    table.LeavesDollarPackages answer ↔ ∃ moves, table.requestedMoves answer = .ok moves := by
  rw [exists_requestedMoves_iff, LeavesDollarPackages]
  simp only [mem_targetPackages_iff, forall_exists_index, and_imp, forall_apply_eq_imp_iff₂]

theorem movePackages_eq_self (answered : ¬table.LeavesDollarPackages answer) :
    table.movePackages answer = table := by
  rw [movePackages, movePackages?]
  cases requested : table.requestedMoves answer with
  | ok moves => exact absurd (leavesDollarPackages_iff.2 ⟨moves, requested⟩) answered
  | error refusal => rfl

theorem movePackages_of_requestedMoves
    {moves : PackageMoves}
    (requested : table.requestedMoves answer = .ok moves) :
    table.movePackages answer = chain [.stored table, .moved moves] := by
  rw [movePackages, movePackages?, requested]
  rfl

/-- Relocation leaves a target type alone if no package is answered for. -/
theorem LeavesPackages.relocate_eq_self
    (leaves : table.LeavesPackages answer)
    {type : JavaType}
    (typeIn : type ∈ table.targetTypes) :
    type.relocate answer = type := by
  apply JavaType.relocate_eq_self
  intro name inside
  have nameIn := mem_targetClasses typeIn inside
  exact leaves name.package ((mem_targetPackages_iff _).2 ⟨name, nameIn, rfl⟩)

end Moving

/-- What moving the target packages of a table makes of its entries of one kind. -/
structure MovingLaws
    {α : Type}
    [DecidableEq α]
    (entries : MappingTable -> OrderedMap α α)
    (relocate : (Text -> Option Text) -> α -> α)
    (table : MappingTable)
    (answer : Text -> Option Text) : Prop where
  /-- Of the entries with one target the first is left, and its target is relocated. -/
  moved : table.LeavesDollarPackages answer -> ∀ source target,
    (entries (table.movePackages answer)).get? source = some target ↔
      ∃ old, (entries table).FirstSource source old ∧ relocate answer old = target
  /-- An answer for a package with a dollar sign keeps every entry as it is. -/
  refused : ¬table.LeavesDollarPackages answer ->
    entries (table.movePackages answer) = entries table
  /-- No source is lost exactly if no target is repeated or the moves are refused. -/
  sources :
    (∀ source, source ∈ (entries (table.movePackages answer)).keys ↔
        source ∈ (entries table).keys) ↔
      (entries table).values.Nodup ∨ ¬table.LeavesDollarPackages answer
  /-- If no package is moved, the entries are the same exactly if no target is repeated. -/
  unmoved : table.LeavesPackages answer ->
    ((entries (table.movePackages answer)).sameEntries (entries table) = true ↔
      (entries table).values.Nodup)

/-- Moving packages obeys these laws if accepted moves rename the targets by relocation. -/
theorem movingLaws_of_relocate
    {α : Type}
    [DecidableEq α]
    (kind : TableKind α)
    {relocate : (Text -> Option Text) -> α -> α}
    {table : MappingTable}
    {answer : Text -> Option Text}
    (relocates : ∀ moves, table.requestedMoves answer = .ok moves ->
      ∀ target ∈ (kind.entries table).values,
        kind.rename moves.toRenaming target = relocate answer target)
    (still : table.LeavesPackages answer ->
      ∀ target ∈ (kind.entries table).values, relocate answer target = target) :
    MovingLaws kind.entries relocate table answer := by
  have carried : table.LeavesDollarPackages answer -> ∀ source,
      (kind.entries (table.movePackages answer)).get? source =
        ((kind.entries table).leading.get? source).map (relocate answer) := by
    intro leaves source
    obtain ⟨moves, requested⟩ := leavesDollarPackages_iff.1 leaves
    have nothing : kind.AddsNothing [.stored table] (.moved moves) :=
      EntryKind.addsNothing_of_entries_eq_empty rfl
    have led := nothing.get?_chain source
    rw [kind.entries_chain_stored] at led
    rw [movePackages_of_requestedMoves requested]
    refine led.trans (Option.map_congr fun target found => ?_)
    apply relocates moves requested
    exact ((kind.entries table).mem_values_leading_iff target).1
      (OrderedMap.mem_values_of_get?_eq_some found)
  refine ⟨?moved, ?refused, ?sources, ?unmoved⟩
  case moved =>
    intro leaves source target
    simp only [carried leaves, Option.map_eq_some_iff, OrderedMap.get?_leading_eq_some_iff]
  case refused =>
    intro answered
    rw [movePackages_eq_self answered]
  case sources =>
    by_cases leaves : table.LeavesDollarPackages answer
    · have kept : ∀ source, source ∈ (kind.entries (table.movePackages answer)).keys ↔
          source ∈ (kind.entries table).leading.keys := by
        intro source
        simp [OrderedMap.mem_keys_iff, carried leaves]
      simp only [kept, OrderedMap.mem_keys_leading_iff, leaves, not_true, or_false]
    · rw [movePackages_eq_self leaves]
      exact iff_of_true (fun _ => Iff.rfl) (.inr leaves)
  case unmoved =>
    intro leaves
    have same : ∀ source, (kind.entries (table.movePackages answer)).get? source =
        (kind.entries table).leading.get? source := by
      intro source
      rw [carried leaves.leavesDollarPackages]
      refine (Option.map_congr fun target found => ?_).trans Option.map_id'
      apply still leaves
      exact ((kind.entries table).mem_values_leading_iff target).1
        (OrderedMap.mem_values_of_get?_eq_some found)
    rw [← OrderedMap.sameEntries_leading_iff, OrderedMap.sameEntries_iff_get?,
      OrderedMap.sameEntries_iff_get?]
    simp only [same]

/-- Moving packages, with or without repeated targets, obeys the same laws for classes,
fields and methods. -/
theorem movingLaws (table : MappingTable) (answer : Text -> Option Text) :
    MovingLaws MappingTable.classes JavaType.relocate table answer ∧
    MovingLaws MappingTable.fields (fun answer => Field.mapTypes (JavaType.relocate answer))
      table answer ∧
    MovingLaws MappingTable.methods (fun answer => Method.mapTypes (JavaType.relocate answer))
      table answer := by
  refine ⟨?classes, ?fields, ?methods⟩
  case classes =>
    apply movingLaws_of_relocate TableKind.classes
    · intro moves requested target targetIn
      exact renameType_eq_relocate requested (mem_targetTypes_of_class targetIn)
    · intro leaves target targetIn
      exact leaves.relocate_eq_self (mem_targetTypes_of_class targetIn)
  case fields =>
    apply movingLaws_of_relocate TableKind.fields
    · exact fun moves requested target targetIn => renameField_eq_relocate requested targetIn
    · intro leaves target targetIn
      apply Field.followsTypes.mapTypes_eq_self
      exact fun type typeIn => leaves.relocate_eq_self (mem_targetTypes_of_field targetIn typeIn)
  case methods =>
    apply movingLaws_of_relocate TableKind.methods
    · exact fun moves requested target targetIn => renameMethod_eq_relocate requested targetIn
    · intro leaves target targetIn
      apply Method.followsTypes.mapTypes_eq_self
      exact fun type typeIn => leaves.relocate_eq_self (mem_targetTypes_of_method targetIn typeIn)

/-- An answer for the default package. -/
def defaultAnswer (package : Text) : Option Text :=
  if package.isEmpty then some ['n'] else none

/-- The first of the classes with one name is moved and the other is lost, and so it is with
the fields and the methods. -/
theorem movingLaws_repeatingTable :
    Chain.repeatingTable.LeavesDollarPackages defaultAnswer ∧
    (Chain.repeatingTable.movePackages defaultAnswer).classes.get? (.ofLetter 'a') =
      some (.named "n.s".toList) ∧
    ¬(∀ source, source ∈ (Chain.repeatingTable.movePackages defaultAnswer).fields.keys ↔
      source ∈ Chain.repeatingTable.fields.keys) ∧
    (Chain.repeatingTable.movePackages defaultAnswer).methods.get?
        (.onto (.ofLetter 'a') (.ofLetter 'f') (.ofLetter 'c')) =
      some (.onto (.named "n.s".toList) (.ofLetter 'g') (.named "n.s".toList)) := by
  have leaves : Chain.repeatingTable.LeavesDollarPackages defaultAnswer := by decide
  obtain ⟨classes, fields, methods⟩ := movingLaws Chain.repeatingTable defaultAnswer
  refine ⟨leaves, ?moved, ?lost, ?carried⟩
  case moved =>
    exact (classes.moved leaves _ _).2 ⟨.ofLetter 's', by decide, by decide⟩
  case lost =>
    rw [fields.sources]
    decide
  case carried =>
    exact (methods.moved leaves _ _).2
      ⟨.onto (.ofLetter 's') (.ofLetter 'g') (.ofLetter 's'), by decide, by decide⟩

/-- Without any answer, the later of two entries with one target is lost all the same. -/
theorem movePackages_repeatingTable_ne :
    Chain.repeatingTable.RenamesClasses ∧
    Chain.repeatingTable.LeavesPackages (fun _ => none) ∧
    (Chain.repeatingTable.movePackages fun _ => none).sameEntries Chain.repeatingTable = false ∧
    .ofLetter 'c' ∈ Chain.repeatingTable.classes.keys ∧
    .ofLetter 'c' ∉ (Chain.repeatingTable.movePackages fun _ => none).classes.keys := by
  decide

end MappingTable
end ObfuscationMap
