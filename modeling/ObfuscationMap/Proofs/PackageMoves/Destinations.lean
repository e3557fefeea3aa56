import ObfuscationMap.Proofs.PackageMoves.Undoing

/-!
# The destinations of moved classes

A table of moves says where each class goes. A class of a package that is moved takes its
simple name to the target package. It is always a class there, unless the default package is
the target and the simple name is that of a primitive type, such as `int`; this class stays,
like the classes of all other packages. What stands around a class, and what has no class in
it, is no matter of moves.
-/

namespace ObfuscationMap

/-- Where a table of moves takes a class. -/
inductive ClassName.MovesTo (table : OrderedMap Text Text) (name moved : ClassName) : Prop
  /-- A class stays if its package is not moved. -/
  | unmoved
      (absent : table.get? name.package = none)
      (stays : moved = name)
  /-- A class stays if it would have the name of a primitive type in the default package. -/
  | reserved
      (stripped : table.get? name.package = some [])
      (reserved : isReserved name.simpleName = true)
      (stays : moved = name)
  /-- Any other class has its simple name in the target package. -/
  | carried
      {destination : Text}
      (target : table.get? name.package = some destination)
      (accepted : destination = [] -> isReserved name.simpleName = false)
      (package : moved.package = destination)
      (simpleName : moved.simpleName = name.simpleName)

namespace PackageMoves

section Classes

variable {moves : PackageMoves} {name moved : ClassName}

/-- A reserved name is refused in the default package. -/
theorem move_of_isReserved
    (stripped : moves.table.get? name.package = some [])
    (reserved : ClassName.isReserved name.simpleName = true) :
    moves.move name = name := by
  have refused : ClassName.isClassName (ClassName.qualified [] name.simpleName) = false := by
    simp [ClassName.qualified, ClassName.isClassName, reserved]
  have read := (ClassName.ofText_eq_error_iff _ _).2 ⟨refused, rfl⟩
  rw [move_of_get?_eq_some stripped, read]
  rfl

/-- Moves take each class where their table says. -/
theorem movesTo_move (moves : PackageMoves) (name : ClassName) :
    name.MovesTo moves.table (moves.move name) := by
  cases target : moves.table.get? name.package with
  | none => exact .unmoved target (move_of_get?_eq_none target)
  | some package =>
      by_cases refused : package = [] ∧ ClassName.isReserved name.simpleName = true
      · obtain ⟨rfl, reserved⟩ := refused
        exact .reserved target reserved (move_of_isReserved target reserved)
      · have accepted : package = [] -> ClassName.isReserved name.simpleName = false := by
          intro stripped
          rw [← Bool.not_eq_true]
          exact fun reserved => refused ⟨stripped, reserved⟩
        obtain ⟨packageMoved, simpleName⟩ := parts_move_of_get?_eq_some target accepted
        exact .carried target accepted packageMoved simpleName

/-- The table says of no class that it goes to two places. -/
theorem movesTo_iff : name.MovesTo moves.table moved ↔ moves.move name = moved := by
  constructor
  · intro goes
    cases goes with
    | unmoved absent stays => rw [stays, move_of_get?_eq_none absent]
    | reserved stripped reserved stays => rw [stays, move_of_isReserved stripped reserved]
    | carried target accepted package simpleName =>
        obtain ⟨packageMoved, simpleNameMoved⟩ := parts_move_of_get?_eq_some target accepted
        apply ClassName.eq_of_package_of_simpleName
        · rw [packageMoved, package]
        · rw [simpleNameMoved, simpleName]
  · rintro rfl
    exact moves.movesTo_move name

end Classes

section Types

variable {moves : PackageMoves} {type : JavaType}

/-- The class in a type is moved under all its dimensions. -/
theorem renameType_eq_arrayOf
    {name : ClassName}
    (inside : type.innermost = .reference name) :
    moves.toRenaming.renameType type =
      (JavaType.reference (moves.move name)).arrayOf type.depth := by
  induction type with
  | reference other =>
      cases inside
      exact moves.renameType_reference name
  | primitive kind => cases inside
  | array element step => exact congrArg JavaType.array (step inside)

theorem renameType_of_primitive
    {kind : Primitive}
    (inside : type.innermost = .primitive kind) :
    moves.toRenaming.renameType type = type := by
  induction type with
  | reference name => cases inside
  | primitive other => rfl
  | array element step => exact congrArg JavaType.array (step inside)

theorem class?_reference_eq_none_iff (name : ClassName) :
    moves.toRenaming.class? (.reference name) = none ↔ moves.move name = name := by
  have answer : moves.toRenaming.class? (.reference name) =
      if moves.move name = name then none else some (.reference (moves.move name)) := rfl
  rw [answer]
  split <;> simp [*]

end Types

/-- A table of packages is taken as moves, which take each class to one place that the table
says. A type is renamed to the array of its moved class with all its dimensions, there is no
answer for a class exactly if it stays, and a type without a class stays. -/
theorem renameType_of_movesTo
    {table : OrderedMap Text Text}
    (packages : ∀ move ∈ table.entries,
      Name.isPackage move.1 = true ∧ Name.isPackage move.2 = true) :
    ∃ moves : PackageMoves, ofTable table = .ok moves ∧
      (∀ name : ClassName, ∃ moved, name.MovesTo table moved) ∧
      (∀ (type : JavaType) (name moved : ClassName),
        type.innermost = .reference name -> name.MovesTo table moved ->
        moves.toRenaming.renameType type = (JavaType.reference moved).arrayOf type.depth ∧
        (moves.toRenaming.class? (.reference name) = none ↔ moved = name)) ∧
      (∀ (type : JavaType) (kind : Primitive),
        type.innermost = .primitive kind -> moves.toRenaming.renameType type = type) := by
  obtain ⟨moves, accepted⟩ := (exists_ofTable_eq_ok_iff table).2 packages
  obtain rfl := table_of_ofTable accepted
  refine ⟨moves, accepted, ?places, ?classes, ?primitives⟩
  case places => exact fun name => ⟨_, moves.movesTo_move name⟩
  case classes =>
    intro type name moved inside goes
    obtain rfl := movesTo_iff.1 goes
    exact ⟨renameType_eq_arrayOf inside, class?_reference_eq_none_iff name⟩
  case primitives => exact fun type kind inside => renameType_of_primitive inside

/-- A class whose simple name has no place in the default package. -/
def keptClass : ClassName := ⟨"q.r.int".toList, by decide⟩

/-- A nested class in the default package. -/
def nestedClass : ClassName := ⟨"A$B".toList, by decide⟩

/-- The class in the package that the default package is moved to. -/
def nestedClassMoved : ClassName := ⟨"p.A$B".toList, by decide⟩

/-- One class goes to another package and the other stays, both under dimensions. -/
theorem renameType_of_movesTo_changingPackages :
    (∀ move ∈ changingPackages.entries,
      Name.isPackage move.1 = true ∧ Name.isPackage move.2 = true) ∧
    keptClass.MovesTo changingPackages keptClass ∧
    nestedClass.MovesTo changingPackages nestedClassMoved ∧
    ∃ moves : PackageMoves, ofTable changingPackages = .ok moves ∧
      moves.toRenaming.renameType (.array (.reference keptClass)) =
        .array (.reference keptClass) ∧
      moves.toRenaming.class? (.reference keptClass) = none ∧
      moves.toRenaming.renameType nestedMatrix =
        .array (.array (.reference nestedClassMoved)) ∧
      moves.toRenaming.class? (.reference nestedClass) ≠ none ∧
      moves.toRenaming.renameType (.array (.primitive .int)) = .array (.primitive .int) := by
  have packages : ∀ move ∈ changingPackages.entries,
      Name.isPackage move.1 = true ∧ Name.isPackage move.2 = true := by decide
  have kept : keptClass.MovesTo changingPackages keptClass :=
    .reserved (by decide) (by decide) rfl
  have carried : nestedClass.MovesTo changingPackages nestedClassMoved := by
    have target : changingPackages.get? nestedClass.package = some "p".toList := by decide
    exact .carried target (fun stripped => absurd stripped (by decide)) (by decide) (by decide)
  obtain ⟨moves, accepted, -, classes, primitives⟩ := renameType_of_movesTo packages
  obtain ⟨keptType, keptAnswer⟩ :=
    classes (.array (.reference keptClass)) keptClass keptClass rfl kept
  obtain ⟨matrix, answer⟩ := classes nestedMatrix nestedClass nestedClassMoved (by decide) carried
  exact ⟨packages, kept, carried, moves, accepted, keptType, keptAnswer.2 rfl, matrix,
    fun silent => absurd (answer.1 silent) (by decide), primitives _ .int rfl⟩

end PackageMoves
end ObfuscationMap
