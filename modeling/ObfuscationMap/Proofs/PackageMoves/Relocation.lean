import ObfuscationMap.PackageMoves.Targets
import ObfuscationMap.Proofs.Chain.TwoTables
import ObfuscationMap.Proofs.PackageMoves.Naming
import ObfuscationMap.Proofs.Sample

/-!
# Moving target packages class by class

Taken alone, every class of a target goes to the package that the function answers with
for its own, if that is a package and the class has a name there. The table is moved so
unless the function answers for a package with a dollar sign. Such a package is the
package of a class but is refused as the source of a move, and then no class is moved.
-/

namespace ObfuscationMap

/-- The dotted package that a function answers with for a package, if it is one. -/
def answeredPackage? (answer : Text -> Option Text) (package : Text) : Option Text :=
  ((answer package.slashed).map Text.dotted).filter Name.isPackage

/-- The class in the package that a function answers with for its own, or the class itself
if there is no such package or no class of its name there. -/
def ClassName.relocate (answer : Text -> Option Text) (name : ClassName) : ClassName :=
  match answeredPackage? answer name.package with
  | some package => (ofText (qualified package name.simpleName)).toOption.getD name
  | none => name

/-- Relocate the class in a type. -/
def JavaType.relocate (answer : Text -> Option Text) (type : JavaType) : JavaType :=
  type.mapClass fun name => .reference (name.relocate answer)

namespace MappingTable

/-- The table with every class in its targets relocated. -/
def relocated (table : MappingTable) (answer : Text -> Option Text) : MappingTable where
  classes := table.classes.mapValues fun _ target => target.relocate answer
  fields := table.fields.mapValues fun _ target => target.mapTypes (JavaType.relocate answer)
  methods := table.methods.mapValues fun _ target =>
    target.mapTypes (JavaType.relocate answer)

/-- The classes in the targets of a table. -/
def targetClasses (table : MappingTable) : List ClassName :=
  table.targetTypes.filterMap JavaType.innermostClass?

/-- The packages that a function asks to move, with the packages it answers with. -/
def requestedTable (table : MappingTable) (answer : Text -> Option Text) :
    OrderedMap Text Text :=
  .ofList <| (table.packageAnswers answer).filter fun move => Name.isPackage move.2

section Requested

variable {table : MappingTable} {answer : Text -> Option Text}

theorem mem_targetClasses
    {type : JavaType}
    (typeIn : type ∈ table.targetTypes)
    {name : ClassName}
    (inside : type.innermost = .reference name) :
    name ∈ table.targetClasses := by
  have classOf : type.innermostClass? = some name := by
    rw [JavaType.innermostClass?, inside]
    rfl
  exact List.mem_filterMap.2 ⟨type, typeIn, classOf⟩

theorem mem_targetPackages_iff (package : Text) :
    package ∈ table.targetPackages ↔ ∃ name ∈ table.targetClasses, name.package = package := by
  rw [targetPackages, List.mem_eraseDups, List.mem_map]
  rfl

/-- The moves that are asked for lead from target packages to the packages that the
function answers with. -/
theorem mem_answers_iff (package target : Text) :
    (package, target) ∈
        (table.packageAnswers answer).filter (fun move => Name.isPackage move.2) ↔
      package ∈ table.targetPackages ∧ answeredPackage? answer package = some target := by
  simp only [packageAnswers, answeredPackage?, List.mem_filter, List.mem_filterMap,
    Option.map_eq_some_iff, Option.filter_eq_some_iff, Prod.mk.injEq]
  constructor
  · rintro ⟨⟨other, otherIn, new, answered, rfl, rfl⟩, valid⟩
    exact ⟨otherIn, ⟨new, answered, rfl⟩, valid⟩
  · rintro ⟨packageIn, ⟨new, answered, rfl⟩, valid⟩
    exact ⟨⟨package, packageIn, new, answered, rfl, rfl⟩, valid⟩

theorem mem_of_mem_requestedTable
    {move : Text × Text}
    (moveIn : move ∈ (table.requestedTable answer).entries) :
    move.1 ∈ table.targetPackages ∧ answeredPackage? answer move.1 = some move.2 :=
  (mem_answers_iff move.1 move.2).1 (OrderedMap.mem_of_mem_entries_ofList moveIn)

theorem get?_requestedTable
    {package : Text}
    (packageIn : package ∈ table.targetPackages) :
    (table.requestedTable answer).get? package = answeredPackage? answer package := by
  cases answered : answeredPackage? answer package with
  | none =>
      rw [OrderedMap.get?_eq_none_iff]
      intro key
      obtain ⟨move, moveIn, rfl⟩ := List.mem_map.1 key
      rw [(mem_of_mem_requestedTable moveIn).2] at answered
      cases answered
  | some target =>
      rw [requestedTable, OrderedMap.get?_ofList]
      apply Entries.find?_eq_some_of_unique
      · exact List.mem_reverse.2 ((mem_answers_iff package target).2 ⟨packageIn, answered⟩)
      · intro other otherIn
        have same := ((mem_answers_iff package other).1 (List.mem_reverse.1 otherIn)).2
        rw [answered] at same
        exact (Option.some.inj same).symm

/-- The moves are accepted exactly if the function answers for no package with a dollar
sign. -/
theorem exists_requestedMoves_iff :
    (∃ moves, table.requestedMoves answer = .ok moves) ↔
      ∀ name ∈ table.targetClasses, '$' ∈ name.package ->
        answeredPackage? answer name.package = none := by
  have accepted := PackageMoves.exists_ofTable_eq_ok_iff (table.requestedTable answer)
  refine accepted.trans ⟨?unanswered, ?valid⟩
  case unanswered =>
    intro valid name nameIn dollarIn
    have packageIn := (mem_targetPackages_iff _).2 ⟨name, nameIn, rfl⟩
    cases answered : answeredPackage? answer name.package with
    | none => rfl
    | some target =>
        rw [← get?_requestedTable packageIn, OrderedMap.get?_eq_some_iff] at answered
        exact absurd dollarIn (name.isPackage_package_iff.1 (valid _ answered).1)
  case valid =>
    intro unanswered move moveIn
    obtain ⟨packageIn, answered⟩ := mem_of_mem_requestedTable moveIn
    obtain ⟨name, nameIn, same⟩ := (mem_targetPackages_iff move.1).1 packageIn
    constructor
    · rw [← same, ClassName.isPackage_package_iff]
      intro dollarIn
      rw [← same, unanswered name nameIn dollarIn] at answered
      cases answered
    · exact (Option.filter_eq_some_iff.1 answered).2

variable {moves : PackageMoves}

/-- Accepted moves relocate the classes of the targets. -/
theorem move_eq_relocate
    (requested : table.requestedMoves answer = .ok moves)
    {name : ClassName}
    (nameIn : name ∈ table.targetClasses) :
    moves.move name = name.relocate answer := by
  have packageIn := (mem_targetPackages_iff _).2 ⟨name, nameIn, rfl⟩
  have found : moves.table.get? name.package = answeredPackage? answer name.package := by
    rw [PackageMoves.table_of_ofTable requested]
    exact get?_requestedTable packageIn
  rw [ClassName.relocate]
  cases answered : answeredPackage? answer name.package with
  | none =>
      rw [answered] at found
      exact PackageMoves.move_of_get?_eq_none found
  | some target =>
      rw [answered] at found
      exact PackageMoves.move_of_get?_eq_some found

theorem renameType_eq_relocate
    (requested : table.requestedMoves answer = .ok moves)
    {type : JavaType}
    (typeIn : type ∈ table.targetTypes) :
    moves.toRenaming.renameType type = type.relocate answer := by
  apply JavaType.mapClass_congr
  intro name inside
  rw [← move_eq_relocate requested (mem_targetClasses typeIn inside)]
  exact moves.renameType_reference name

end Requested

theorem chain_stored_moved
    {table : MappingTable}
    (distinct : table.DistinctTargets)
    (moves : PackageMoves) :
    chain [.stored table, .moved moves] = {
      classes := table.classes.mapValues fun _ target => moves.toRenaming.renameType target
      fields := table.fields.mapValues fun _ target =>
        target.mapTypes moves.toRenaming.renameType
      methods := table.methods.mapValues fun _ target =>
        target.mapTypes moves.toRenaming.renameType } := by
  have grown : Chain.ofLayers [.stored table, .moved moves] =
      (Chain.ofLayers [.stored table]).extend (.moved moves) :=
    Chain.ofLayers_append_singleton [.stored table] (.moved moves)
  rw [chain, grown, Chain.ofLayers_singleton distinct]
  simp only [Chain.extend, Chain.ownEntries, Layer.entries, empty, Chain.carry_own_empty]
  rfl

section Targets

variable {table : MappingTable}

theorem mem_targetTypes_of_class {target : JavaType} (targetIn : target ∈ table.classes.values) :
    target ∈ table.targetTypes := by
  simp only [targetTypes, List.mem_append]
  exact .inl (.inl targetIn)

theorem mem_targetTypes_of_field
    {target : Field}
    (targetIn : target ∈ table.fields.values)
    {type : JavaType}
    (typeIn : type ∈ target.types) :
    type ∈ table.targetTypes := by
  obtain rfl := List.mem_singleton.1 typeIn
  simp only [targetTypes, List.mem_append]
  exact .inl (.inr (List.mem_map_of_mem targetIn))

theorem mem_targetTypes_of_method
    {target : Method}
    (targetIn : target ∈ table.methods.values)
    {type : JavaType}
    (typeIn : type ∈ target.types) :
    type ∈ table.targetTypes := by
  simp only [targetTypes, List.mem_append]
  exact .inr (List.mem_flatMap.2 ⟨target, targetIn, typeIn⟩)

variable {answer : Text -> Option Text} {moves : PackageMoves}

/-- Accepted moves relocate the types of a target field. -/
theorem renameField_eq_relocate
    (requested : table.requestedMoves answer = .ok moves)
    {target : Field}
    (targetIn : target ∈ table.fields.values) :
    moves.toRenaming.renameField target = target.mapTypes (JavaType.relocate answer) := by
  apply Field.followsTypes.mapTypes_congr
  intro type typeIn
  exact renameType_eq_relocate requested (mem_targetTypes_of_field targetIn typeIn)

/-- Accepted moves relocate the types of a target method. -/
theorem renameMethod_eq_relocate
    (requested : table.requestedMoves answer = .ok moves)
    {target : Method}
    (targetIn : target ∈ table.methods.values) :
    moves.toRenaming.renameMethod target = target.mapTypes (JavaType.relocate answer) := by
  apply Method.followsTypes.mapTypes_congr
  intro type typeIn
  exact renameType_eq_relocate requested (mem_targetTypes_of_method targetIn typeIn)

end Targets

/-- Accepted moves relocate the table. -/
theorem chain_stored_moved_eq_relocated
    {table : MappingTable}
    (distinct : table.DistinctTargets)
    {answer : Text -> Option Text}
    {moves : PackageMoves}
    (requested : table.requestedMoves answer = .ok moves) :
    chain [.stored table, .moved moves] = table.relocated answer := by
  have classes : (table.classes.mapValues fun _ target =>
        moves.toRenaming.renameType target) =
      table.classes.mapValues fun _ target => target.relocate answer := by
    apply OrderedMap.mapValues_congr
    intro entry stored
    exact renameType_eq_relocate requested
      (mem_targetTypes_of_class (List.mem_map_of_mem stored))
  have fields : (table.fields.mapValues fun _ target =>
        target.mapTypes moves.toRenaming.renameType) =
      table.fields.mapValues fun _ target => target.mapTypes (JavaType.relocate answer) := by
    apply OrderedMap.mapValues_congr
    intro entry stored
    exact renameField_eq_relocate requested (List.mem_map_of_mem stored)
  have methods : (table.methods.mapValues fun _ target =>
        target.mapTypes moves.toRenaming.renameType) =
      table.methods.mapValues fun _ target => target.mapTypes (JavaType.relocate answer) := by
    apply OrderedMap.mapValues_congr
    intro entry stored
    exact renameMethod_eq_relocate requested (List.mem_map_of_mem stored)
  rw [chain_stored_moved distinct, classes, fields, methods]
  rfl

/-- Moving the target packages relocates every class on its own exactly if the function
answers for no package with a dollar sign or relocation changes nothing. One answer for a
package with a dollar sign keeps every class where it is. -/
theorem movePackages_eq_relocated_iff
    {table : MappingTable}
    (distinct : table.DistinctTargets)
    (answer : Text -> Option Text) :
    (table.movePackages answer = table.relocated answer ↔
      table.relocated answer = table ∨
        ∀ name ∈ table.targetClasses, '$' ∈ name.package ->
          answeredPackage? answer name.package = none) ∧
    ((∃ name ∈ table.targetClasses, '$' ∈ name.package ∧
        answeredPackage? answer name.package ≠ none) ->
      table.movePackages answer = table) := by
  rw [movePackages, movePackages?]
  cases requested : table.requestedMoves answer with
  | ok moves =>
      -- The moves were accepted, so no package with a dollar sign is among them.
      have unanswered := exists_requestedMoves_iff.1 ⟨moves, requested⟩
      rw [Option.getD_some, chain_stored_moved_eq_relocated distinct requested]
      refine ⟨iff_of_true rfl (.inr unanswered), ?_⟩
      rintro ⟨name, nameIn, dollarIn, answered⟩
      exact absurd (unanswered name nameIn dollarIn) answered
  | error refusal =>
      rw [Option.getD_none]
      refine ⟨⟨fun same => .inl same.symm, ?_⟩, fun _ => rfl⟩
      rintro (same | unanswered)
      · exact same.symm
      · obtain ⟨moves, accepted⟩ := exists_requestedMoves_iff.2 unanswered
        rw [requested] at accepted
        cases accepted

/-- A class of a package and a class of a package with a dollar sign. -/
def dollarTable : MappingTable where
  classes := .ofList [
    (.ofLetter 'a', .named "p.X".toList), (.ofLetter 'b', .named "q$r.Y".toList)]

/-- An answer for the first package. -/
def plainAnswer (package : Text) : Option Text :=
  if package = ['p'] then some ['n'] else none

/-- Answers for both packages. -/
def dollarAnswer (package : Text) : Option Text :=
  if package = ['q', '$', 'r'] then some ['m'] else plainAnswer package

/-- The answer for the package with a dollar sign keeps the other class where it is. -/
theorem movePackages_dollarTable_ne :
    ∃ table : MappingTable, ∃ answer : Text -> Option Text,
      table.RenamesClasses ∧ table.DistinctTargets ∧
        table.movePackages answer ≠ table.relocated answer := by
  refine ⟨dollarTable, dollarAnswer, by decide, ⟨by decide, by decide, by decide⟩, ?_⟩
  intro same
  have moved := congrArg (fun table => table.classes.get? (.ofLetter 'a')) same
  exact absurd moved (by decide)

/-- Without the answer for the package with a dollar sign the class is moved. -/
theorem movePackages_eq_relocated_iff_dollarTable :
    dollarTable.DistinctTargets ∧
    dollarTable.movePackages plainAnswer = dollarTable.relocated plainAnswer ∧
    (dollarTable.relocated plainAnswer).classes.get? (.ofLetter 'a') =
      some (.named "n.X".toList) ∧
    dollarTable.movePackages dollarAnswer = dollarTable := by
  have distinct : dollarTable.DistinctTargets := ⟨by decide, by decide, by decide⟩
  have plain := (movePackages_eq_relocated_iff distinct plainAnswer).1
  have dollar := (movePackages_eq_relocated_iff distinct dollarAnswer).2
  exact ⟨distinct, plain.2 (.inr (by decide)), by decide, dollar (by decide)⟩

end MappingTable
end ObfuscationMap
