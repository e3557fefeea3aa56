import ObfuscationMap.Notice
import ObfuscationMap.OrderedMap.Basic
import ObfuscationMap.Renaming

/-!
# Package moves

A table of package moves leads from packages to packages. It renames each class
of a package that it moves, and members follow the classes of their types. A
class stays where it is if its new name is no class name: a reserved name, such
as `int`, can stand in a package but not in the default package.
-/

namespace ObfuscationMap

/-- Moves of classes from package to package. -/
structure PackageMoves where
  /-- The dotted package that takes the place of each moved package. -/
  table : OrderedMap Text Text
  /-- Both sides of every move are packages. -/
  valid : ∀ move ∈ table.entries,
    Name.isPackage move.1 = true ∧ Name.isPackage move.2 = true

namespace PackageMoves

/-- The first text of a table of moves that is no package, each source coming
before its target. -/
def firstInvalid? (table : OrderedMap Text Text) : Option Text :=
  (table.entries.flatMap fun move => [move.1, move.2]).find? fun package =>
    !Name.isPackage package

theorem isPackage_of_firstInvalid?_eq_none
    (table : OrderedMap Text Text)
    (sound : firstInvalid? table = none) :
    ∀ move ∈ table.entries,
      Name.isPackage move.1 = true ∧ Name.isPackage move.2 = true := by
  intro move moveIn
  simp only [firstInvalid?, List.find?_eq_none, List.mem_flatMap] at sound
  constructor
  · simpa using sound move.1 ⟨move, moveIn, by simp⟩
  · simpa using sound move.2 ⟨move, moveIn, by simp⟩

/-- Take a table as package moves, if all its texts are packages. -/
def ofTable (table : OrderedMap Text Text) : Except MappingError PackageMoves :=
  match found : firstInvalid? table with
  | some package => .error (.invalidName .package package)
  | none => .ok ⟨table, isPackage_of_firstInvalid?_eq_none table found⟩

/-- The package that a class is moved to, and its new name there or the refusal of
it. A class of a package that is not moved has neither. -/
def attempt? (moves : PackageMoves) (name : ClassName) :
    Option (Text × Except MappingError ClassName) :=
  (moves.table.get? name.package).map fun package =>
    (package, ClassName.ofText (ClassName.qualified package name.simpleName))

/-- The class after the moves: the class itself if its package is not moved or
its new name is refused. -/
def move (moves : PackageMoves) (name : ClassName) : ClassName :=
  match moves.attempt? name with
  | some (_, .ok moved) => moved
  | _ => name

/-- The answer for a class that the moves change. -/
def class? (moves : PackageMoves) : JavaType -> Option JavaType
  | .reference name =>
      if moves.move name = name then none else some (.reference (moves.move name))
  | _ => none

/-- The renaming that answers by the moves. It has no answer for a member. -/
def toRenaming (moves : PackageMoves) : Renaming :=
  .ofClasses moves.class?

/-- The report of moving a class: a refused name is noted. -/
def reportMove (moves : PackageMoves) (name : ClassName) : Report :=
  match moves.attempt? name with
  | some (package, .error error) =>
      .ofNotice (.unmovedClass name.text package error)
  | _ => .empty

/-- Moves rename a class to the class after the moves. -/
@[simp] theorem renameType_reference (moves : PackageMoves) (name : ClassName) :
    moves.toRenaming.renameType (.reference name) = .reference (moves.move name) := by
  by_cases same : moves.move name = name <;>
    simp [toRenaming, Renaming.renameType, Renaming.ofClasses, JavaType.mapClass, class?,
      same]

end PackageMoves
end ObfuscationMap
