import ObfuscationMap.Chain.Report

/-!
# Moving the target packages of a table

The packages of the classes that a table produces can be moved by a function,
which is asked once for each of them by its internal name and may leave it where
it is. An answer that is no package is passed over. The moves are then chained
onto the table.
-/

namespace ObfuscationMap
namespace MappingTable

/-- The types in the targets of a table: class entries, then the declaring types
of fields, then the types of methods. -/
def targetTypes (table : MappingTable) : List JavaType :=
  table.classes.values ++ table.fields.values.map Field.owner ++
    table.methods.values.flatMap fun method =>
      method.owner :: method.signature.parameters ++ [method.signature.result]

/-- The packages of the classes in the targets of a table, each once, in the order
in which they are met. -/
def targetPackages (table : MappingTable) : List Text :=
  ((table.targetTypes.filterMap JavaType.innermostClass?).map
    ClassName.package).eraseDups

/-- The answers of a function about the target packages of a table, dotted. -/
def packageAnswers
    (table : MappingTable)
    (answer : Text -> Option Text) : List (Text × Text) :=
  table.targetPackages.filterMap fun package =>
    (answer (Text.slashed package)).map fun target => (package, Text.dotted target)

/-- The moves that a function asks for and that lead to packages. -/
def requestedMoves
    (table : MappingTable)
    (answer : Text -> Option Text) : Except MappingError PackageMoves :=
  PackageMoves.ofTable <| .ofList <|
    (table.packageAnswers answer).filter fun move => Name.isPackage move.2

/-- The table with its target packages moved, if the moves are accepted. -/
def movePackages?
    (table : MappingTable)
    (answer : Text -> Option Text) : Option MappingTable :=
  match table.requestedMoves answer with
  | .ok moves => some (chain [.stored table, .moved moves])
  | .error _ => none

/-- Move the target packages of a table, or leave the table as it is if the moves
are refused. -/
def movePackages
    (table : MappingTable)
    (answer : Text -> Option Text) : MappingTable :=
  (table.movePackages? answer).getD table

/-- The report of moving the target packages of a table. -/
def reportMovePackages
    (table : MappingTable)
    (answer : Text -> Option Text) : Report :=
  .join (((table.packageAnswers answer).filter fun move =>
      !Name.isPackage move.2).map fun move =>
        .ofNotice (.unmovedPackage move.1 move.2)) ++
    match table.requestedMoves answer with
    | .ok moves => reportChain false [.stored table, .moved moves]
    | .error error => .ofNotice (.unmovedPackages error)

end MappingTable
end ObfuscationMap
