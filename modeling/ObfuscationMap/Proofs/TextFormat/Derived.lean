import ObfuscationMap.PackageMoves.Targets
import ObfuscationMap.Proofs.Chain.Writability
import ObfuscationMap.Proofs.TextFormat.SrgRoundTrip

/-!
# Tables derived from texts

Tables that are read from texts are writable. Inverting them and chaining them keeps them
writable, so everything that is derived from texts in this way can be written and read
back. Only package moves can break it, and they do exactly if they strip a class of its
package whose simple name is read as a primitive type.
-/

namespace ObfuscationMap

/-- The tables that are derived from texts by inverting them, chaining them with each
other and with package moves, and moving their target packages. Moves are applied only to
tables on which they are permitted. -/
inductive Derived (permitted : PackageMoves -> MappingTable -> Prop) : MappingTable -> Prop
  | read {format : TextFormat} {lines : List (Option Text)} {table : MappingTable}
      (read : format.readDecoded lines = .ok table) : Derived permitted table
  | inverted {table : MappingTable} (derived : Derived permitted table) :
      Derived permitted table.inverse
  | chained {first second : MappingTable} (firstDerived : Derived permitted first)
      (secondDerived : Derived permitted second) :
      Derived permitted (chain [.stored first, .stored second])
  | moved {table : MappingTable} {moves : PackageMoves} (derived : Derived permitted table)
      (allowed : permitted moves table) :
      Derived permitted (chain [.stored table, .moved moves])
  | repackaged {table : MappingTable} {answer : Text -> Option Text}
      (derived : Derived permitted table)
      (allowed : ∀ moves, table.requestedMoves answer = .ok moves -> permitted moves table) :
      Derived permitted (table.movePackages answer)

namespace Derived

/-- A table that is derived with moves that spare what they move is writable. -/
theorem isWritable {table : MappingTable} (derived : Derived PackageMoves.Spares table) :
    table.IsWritable := by
  induction derived with
  | read read => exact TextFormat.isWritable_of_readDecoded read
  | inverted derived step => exact step.inverse
  | chained firstDerived secondDerived firstStep secondStep =>
      exact Chain.isWritable_chain_pair firstStep secondStep
  | moved derived allowed step => exact (Chain.isWritable_chain_moved_iff step _).2 allowed
  | @repackaged table answer derived allowed step =>
      rw [MappingTable.movePackages, MappingTable.movePackages?]
      cases requested : table.requestedMoves answer with
      | error refusal => exact step
      | ok moves =>
          exact (Chain.isWritable_chain_moved_iff step moves).2 (allowed moves requested)

end Derived

namespace TextFormat

theorem srg_readLines_lines_iff (table : MappingTable) :
    (∃ result, srg.readLines (srg.lines table) = .ok result ∧
      result.sameEntries table = true) ↔
    table.IsWritable := by
  constructor
  · rintro ⟨result, read, same⟩
    exact (isWritable_of_readDecoded read).of_sameEntries same
  · exact exists_readLines_lines

/-- Every table that is derived from texts is read back from its lines, provided that no
move strips a class to the spelling of a primitive type; every such move breaks it. -/
theorem srg_readLines_lines_derived :
    (∀ table, Derived PackageMoves.Spares table ->
      ∃ result, srg.readLines (srg.lines table) = .ok result ∧
        result.sameEntries table = true) ∧
    (∀ table moves, Derived PackageMoves.Spares table ->
      ((∃ result,
          srg.readLines (srg.lines (chain [.stored table, .moved moves])) = .ok result ∧
            result.sameEntries (chain [.stored table, .moved moves]) = true) ↔
        moves.Spares table)) := by
  constructor
  · intro table derived
    exact exists_readLines_lines derived.isWritable
  · intro table moves derived
    rw [srg_readLines_lines_iff]
    exact Chain.isWritable_chain_moved_iff derived.isWritable moves

/-- A class in a package, with a simple name that is spelled like a primitive type. -/
def packagedTable : MappingTable where
  classes := .ofList [(.ofLetter 'a', .named "p.Int".toList)]

/-- Moves into another package. -/
def shiftingMoves : PackageMoves where
  table := .ofList [(['p'], ['q'])]
  valid := by decide

/-- Moves into the default package. -/
def strippingMoves : PackageMoves where
  table := .ofList [(['p'], [])]
  valid := by decide

theorem readDecoded_packagedTable :
    srg.readDecoded [some "CL: a p/Int".toList] = .ok packagedTable := by rfl

/-- Moving the package away for the default package leaves a table that is not read back. -/
theorem not_srg_readLines_lines_derived :
    ∃ table, Derived (fun _ _ => True) table ∧
      ¬∃ result, srg.readLines (srg.lines table) = .ok result ∧
        result.sameEntries table = true := by
  have derived : Derived (fun _ _ => True) (packagedTable.movePackages fun _ => some []) :=
    .repackaged (.read readDecoded_packagedTable) fun _ _ => trivial
  have stripped : packagedTable.movePackages (fun _ => some []) = shoutedTable := by rfl
  rw [stripped] at derived
  refine ⟨shoutedTable, derived, ?_⟩
  rw [srg_readLines_lines_iff]
  intro writable
  exact absurd (writable.classes _ List.mem_cons_self) (by decide)

/-- The class is read back in another package, but not in the default package. -/
theorem srg_readLines_lines_derived_packagedTable :
    Derived PackageMoves.Spares packagedTable ∧
    shiftingMoves.Spares packagedTable ∧
    ¬strippingMoves.Spares packagedTable ∧
    ∃ result,
      srg.readLines (srg.lines (chain [.stored packagedTable, .moved shiftingMoves])) =
          .ok result ∧
        result.sameEntries (chain [.stored packagedTable, .moved shiftingMoves]) = true := by
  have parsed : Derived PackageMoves.Spares packagedTable := .read readDecoded_packagedTable
  have moved := fun moves => Chain.isWritable_chain_moved_iff parsed.isWritable moves
  have spared : shiftingMoves.Spares packagedTable :=
    (moved shiftingMoves).1 ⟨by decide, by decide, by decide, by decide⟩
  have broken : ¬strippingMoves.Spares packagedTable := by
    rw [← moved]
    intro writable
    exact absurd (writable.classes _ List.mem_cons_self) (by decide)
  exact ⟨parsed, spared, broken, (srg_readLines_lines_derived.2 _ _ parsed).2 spared⟩

end TextFormat
end ObfuscationMap
