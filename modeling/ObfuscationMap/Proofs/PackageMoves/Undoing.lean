import Mathlib.Data.Set.Function
import ObfuscationMap.Proofs.OrderedMap.Lookup
import ObfuscationMap.Proofs.PackageMoves.Naming
import ObfuscationMap.Proofs.Renaming.Composition
import ObfuscationMap.Proofs.Sample

/-!
# Undoing package moves

Moves take a class from package to package and leave its simple name alone, so they follow
their table as far as the package of a class goes. Moves without repeated targets are undone
by the moves back, on every class whose package is moved or else is nowhere moved to. Only a
simple name such as `int` stands in the way: the class could not be moved to the default
package.
-/

namespace ObfuscationMap

/-- Moves by a table can be undone on a class: its package is moved or else no target of a
move, and its simple name is no name of a primitive type. -/
structure ClassName.IsReturnable (table : OrderedMap Text Text) (name : ClassName) : Prop where
  package : name.package ∈ table.keys ∨ name.package ∉ table.values
  simpleName : isReserved name.simpleName = false

/-- Moves by a table can be undone on the class in a type, if there is one. -/
def JavaType.IsReturnable (table : OrderedMap Text Text) (type : JavaType) : Prop :=
  ∀ name, type.innermost = .reference name -> name.IsReturnable table

theorem ClassName.isReturnable_iff (table : OrderedMap Text Text) (name : ClassName) :
    name.IsReturnable table ↔
      (name.package ∈ table.keys ∨ name.package ∉ table.values) ∧
        isReserved name.simpleName = false :=
  ⟨fun returnable => ⟨returnable.package, returnable.simpleName⟩,
    fun parts => ⟨parts.1, parts.2⟩⟩

instance (table : OrderedMap Text Text) (name : ClassName) :
    Decidable (name.IsReturnable table) :=
  decidable_of_iff _ (name.isReturnable_iff table).symm

theorem JavaType.isReturnable_iff (table : OrderedMap Text Text) (type : JavaType) :
    type.IsReturnable table ↔
      (type.innermostClass?.all fun name => decide (name.IsReturnable table)) = true := by
  unfold IsReturnable innermostClass?
  cases type.innermost <;> simp [className?]

instance (table : OrderedMap Text Text) (type : JavaType) :
    Decidable (type.IsReturnable table) :=
  decidable_of_iff _ (type.isReturnable_iff table).symm

namespace PackageMoves

section Classes

variable {moves back : PackageMoves} {name : ClassName}

/-- Moves change the package of a class by their table, and its simple name not at all. -/
theorem parts_move
    (moves : PackageMoves)
    (free : ClassName.isReserved name.simpleName = false) :
    (moves.move name).package = moves.table.follow name.package ∧
      (moves.move name).simpleName = name.simpleName := by
  cases moved : moves.table.get? name.package with
  | none =>
      rw [move_of_get?_eq_none moved, OrderedMap.follow_of_get?_eq_none moved]
      exact ⟨rfl, rfl⟩
  | some package =>
      rw [OrderedMap.follow_of_get?_eq_some moved]
      exact parts_move_of_get?_eq_some moved fun _ => free

/-- The moves back return a class to its package. -/
theorem move_back_move
    (swapped : back.table = moves.table.inverse)
    (distinct : moves.table.values.Nodup)
    (returnable : name.IsReturnable moves.table) :
    back.move (moves.move name) = name := by
  obtain ⟨package, simpleName⟩ := moves.parts_move returnable.simpleName
  have free : ClassName.isReserved (moves.move name).simpleName = false := by
    rw [simpleName]
    exact returnable.simpleName
  obtain ⟨packageBack, simpleNameBack⟩ := back.parts_move free
  apply ClassName.eq_of_package_of_simpleName
  · rw [packageBack, package, swapped,
      OrderedMap.follow_inverse_follow distinct returnable.package]
  · rw [simpleNameBack, simpleName]

theorem renameType_back_renameType
    (swapped : back.table = moves.table.inverse)
    (distinct : moves.table.values.Nodup)
    {type : JavaType}
    (returnable : type.IsReturnable moves.table) :
    back.toRenaming.renameType (moves.toRenaming.renameType type) = type := by
  rw [Renaming.renameType_renameType]
  refine (JavaType.mapClass_congr fun name inside => ?_).trans type.mapClass_reference
  rw [renameType_reference, renameType_reference,
    move_back_move swapped distinct (returnable name inside)]

end Classes

/-- The swapped moves of a table are moves between packages too. -/
theorem isPackage_of_mem_inverse
    {table : OrderedMap Text Text}
    (packages : ∀ move ∈ table.entries,
      Name.isPackage move.1 = true ∧ Name.isPackage move.2 = true) :
    ∀ move ∈ table.inverse.entries,
      Name.isPackage move.1 = true ∧ Name.isPackage move.2 = true :=
  fun _ moveIn => (packages _ (OrderedMap.swap_mem_of_mem_inverse moveIn)).symm

/-- A table of packages without repeated targets is taken as moves, with its sides swapped it
is taken as moves back, and these undo the renaming of types and members wherever they can.
So different types or members do not come out the same. -/
theorem rename_back_rename
    {table : OrderedMap Text Text}
    (packages : ∀ move ∈ table.entries,
      Name.isPackage move.1 = true ∧ Name.isPackage move.2 = true)
    (distinct : table.values.Nodup) :
    ∃ moves back : PackageMoves,
      ofTable table = .ok moves ∧ ofTable table.inverse = .ok back ∧
      (∀ type : JavaType, type.IsReturnable table ->
        back.toRenaming.renameType (moves.toRenaming.renameType type) = type) ∧
      (∀ field : Field, (∀ type ∈ field.types, type.IsReturnable table) ->
        back.toRenaming.renameField (moves.toRenaming.renameField field) = field) ∧
      (∀ method : Method, (∀ type ∈ method.types, type.IsReturnable table) ->
        back.toRenaming.renameMethod (moves.toRenaming.renameMethod method) = method) ∧
      Set.InjOn moves.toRenaming.renameType {type | type.IsReturnable table} ∧
      Set.InjOn moves.toRenaming.renameField
        {field | ∀ type ∈ field.types, type.IsReturnable table} ∧
      Set.InjOn moves.toRenaming.renameMethod
        {method | ∀ type ∈ method.types, type.IsReturnable table} := by
  obtain ⟨moves, accepted⟩ := (exists_ofTable_eq_ok_iff table).2 packages
  obtain ⟨back, backAccepted⟩ :=
    (exists_ofTable_eq_ok_iff table.inverse).2 (isPackage_of_mem_inverse packages)
  obtain rfl := table_of_ofTable accepted
  have swapped := table_of_ofTable backAccepted
  have types : Set.LeftInvOn back.toRenaming.renameType moves.toRenaming.renameType
      {type | type.IsReturnable moves.table} :=
    fun _ returnable => renameType_back_renameType swapped distinct returnable
  have fields : Set.LeftInvOn back.toRenaming.renameField moves.toRenaming.renameField
      {field | ∀ type ∈ field.types, type.IsReturnable moves.table} :=
    fun _ returnable => Field.followsTypes.mapTypes_undo fun type typeIn =>
      types (returnable type typeIn)
  have methods : Set.LeftInvOn back.toRenaming.renameMethod moves.toRenaming.renameMethod
      {method | ∀ type ∈ method.types, type.IsReturnable moves.table} :=
    fun _ returnable => Method.followsTypes.mapTypes_undo fun type typeIn =>
      types (returnable type typeIn)
  exact ⟨moves, back, accepted, backAccepted, types, fields, methods, types.injOn,
    fields.injOn, methods.injOn⟩

/-- Three packages that change places, the default package among them, and a fourth one. -/
def changingPackages : OrderedMap Text Text :=
  .ofList [([], "p".toList), ("p".toList, "q.r".toList), ("q.r".toList, []),
    ("s".toList, "t".toList)]

/-- The moves of these packages. -/
def changingMoves : PackageMoves where
  table := changingPackages
  valid := by decide

/-- A matrix of a nested class in the default package. -/
def nestedMatrix : JavaType :=
  .array (.array (.named "A$B".toList))

/-- A method whose types are moved in two ways or not at all. -/
def spreadMethod : Method where
  owner := .named "p.int$D".toList
  name := .ofLetter 'f'
  signature :=
    { parameters := [.primitive .int, .array (.named "u.E".toList)]
      result := .named "s.F".toList }

/-- The method after the moves. -/
def spreadMethodMoved : Method where
  owner := .named "q.r.int$D".toList
  name := .ofLetter 'f'
  signature :=
    { parameters := [.primitive .int, .array (.named "u.E".toList)]
      result := .named "t.F".toList }

/-- A nested class leaves the default package under its dimensions, another class enters it
with a field, and the types of a method go different ways. All of them return. -/
theorem rename_back_rename_changingPackages :
    (∀ move ∈ changingPackages.entries,
      Name.isPackage move.1 = true ∧ Name.isPackage move.2 = true) ∧
    changingPackages.values.Nodup ∧
    nestedMatrix.IsReturnable changingPackages ∧
    (∀ type ∈ Field.types ⟨.named "q.r.C".toList, .ofLetter 'x'⟩,
      type.IsReturnable changingPackages) ∧
    (∀ type ∈ spreadMethod.types, type.IsReturnable changingPackages) ∧
    ∃ moves back : PackageMoves,
      ofTable changingPackages = .ok moves ∧ ofTable changingPackages.inverse = .ok back ∧
      moves.toRenaming.renameType nestedMatrix = .array (.array (.named "p.A$B".toList)) ∧
      back.toRenaming.renameType (moves.toRenaming.renameType nestedMatrix) =
        nestedMatrix ∧
      moves.toRenaming.renameField ⟨.named "q.r.C".toList, .ofLetter 'x'⟩ =
        ⟨.named "C".toList, .ofLetter 'x'⟩ ∧
      back.toRenaming.renameField
          (moves.toRenaming.renameField ⟨.named "q.r.C".toList, .ofLetter 'x'⟩) =
        ⟨.named "q.r.C".toList, .ofLetter 'x'⟩ ∧
      moves.toRenaming.renameMethod spreadMethod = spreadMethodMoved ∧
      back.toRenaming.renameMethod (moves.toRenaming.renameMethod spreadMethod) =
        spreadMethod ∧
      Set.InjOn moves.toRenaming.renameMethod
        {method | ∀ type ∈ method.types, type.IsReturnable changingPackages} := by
  have packages : ∀ move ∈ changingPackages.entries,
      Name.isPackage move.1 = true ∧ Name.isPackage move.2 = true := by decide
  have distinct : changingPackages.values.Nodup := by decide
  have matrixReturns : nestedMatrix.IsReturnable changingPackages := by decide
  have fieldReturns : ∀ type ∈ Field.types ⟨.named "q.r.C".toList, .ofLetter 'x'⟩,
      type.IsReturnable changingPackages := by decide
  have methodReturns : ∀ type ∈ spreadMethod.types, type.IsReturnable changingPackages := by
    decide
  obtain ⟨moves, back, accepted, backAccepted, types, fields, methods, -, -, injective⟩ :=
    rename_back_rename packages distinct
  obtain rfl : moves = changingMoves := by
    have concrete : ofTable changingPackages = .ok changingMoves := rfl
    exact Except.ok.inj (accepted.symm.trans concrete)
  exact ⟨packages, distinct, matrixReturns, fieldReturns, methodReturns, changingMoves, back,
    accepted, backAccepted, by decide, types _ matrixReturns, by decide,
    fields _ fieldReturns, by decide, methods _ methodReturns, injective⟩

end PackageMoves
end ObfuscationMap
