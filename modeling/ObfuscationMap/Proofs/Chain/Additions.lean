import ObfuscationMap.Proofs.Chain.Kinds
import ObfuscationMap.Proofs.Chain.TwoTables
import ObfuscationMap.Proofs.OrderedMap.Inversion

/-!
# Layers that add nothing to a chain

A layer adds nothing to a chain if each of its sources is led back to a source that the
chain has already. The chain then keeps its sources, and their targets are renamed by the
layer. A layer without entries is of this kind, and so is a table that starts from targets
of the chain alone, if a table renames them by their own entries: every member, and every
type that is a class. The inverse of a table is such a table, so chained onto the table it
leads each source back to itself.
-/

namespace ObfuscationMap

namespace EntryKind

variable {α : Type} [DecidableEq α]

/-- A layer adds nothing to the chain of some layers if each of its sources is led back to
one that the chain has. -/
def AddsNothing (kind : EntryKind α) (before : List Layer) (layer : Layer) : Prop :=
  ∀ source ∈ (kind.entries layer.entries).keys,
    kind.leadBack before source ∈ (kind.entries (chain before)).keys

variable {kind : EntryKind α} {before : List Layer} {layer : Layer}

/-- A layer that adds nothing renames the targets of the chain and does no more. -/
theorem AddsNothing.get?_chain
    (nothing : kind.AddsNothing before layer)
    (source : α) :
    (kind.entries (chain (before ++ [layer]))).get? source =
      ((kind.entries (chain before)).get? source).map (kind.rename layer.toRenaming) := by
  rw [get?_chain_append_singleton]
  cases found : (kind.entries (chain before)).get? source with
  | some target => rfl
  | none =>
      have newSource := (OrderedMap.get?_eq_none_iff _ source).1 found
      rw [Option.map_none, Option.none_or, Option.eq_none_iff_forall_ne_some]
      intro target brought
      obtain ⟨other, taken, rfl⟩ := Chain.exists_of_get?_own brought
      have otherKey : other ∈ (kind.entries layer.entries).keys :=
        List.mem_map_of_mem (f := Prod.fst) (Chain.unclaimed_subset _ _ taken)
      exact newSource (nothing other otherKey)

theorem addsNothing_of_entries_eq_empty (noEntries : layer.entries = .empty) :
    kind.AddsNothing before layer := by
  intro source key
  rw [noEntries, kind.entries_empty] at key
  exact absurd key List.not_mem_nil

end EntryKind

/-- A kind of entries whose tables are inverted, and led on by layers, entry by entry. -/
structure TableKind (α : Type) [DecidableEq α] extends EntryKind α where
  /-- Whether every table renames a value by the entry that it has for it. -/
  isDirect : α -> Bool
  rename_of_get?_eq_some : ∀ {table : MappingTable} {value target : α},
    isDirect value = true -> (entries table).get? value = some target ->
      rename table.toRenaming value = target
  rename_inverse_empty : ∀ value, rename MappingTable.empty.inverse.toRenaming value = value
  entries_inverse : ∀ table : MappingTable, entries table.inverse = (entries table).inverse
  entries_onSources : ∀ (layer : Layer) (table : MappingTable),
    entries (layer.onSources table) =
      (entries table).mapValues fun source _ => rename layer.toRenaming source
  entries_onTargets : ∀ (layer : Layer) (table : MappingTable),
    entries (layer.onTargets table) =
      .ofList ((entries table).values.map fun target =>
        (target, rename layer.toRenaming target))

namespace TableKind

/-- The class entries. A type that is an array is renamed by the class in it. -/
def classes : TableKind JavaType where
  toEntryKind := EntryKind.classes
  isDirect := JavaType.isClass
  rename_of_get?_eq_some isClass found :=
    (MappingTable.renameType_of_isClass isClass).trans
      (OrderedMap.follow_of_get?_eq_some found)
  rename_inverse_empty := Chain.renameType_inverse_empty
  entries_inverse _ := rfl
  entries_onSources _ _ := rfl
  entries_onTargets _ _ := rfl

/-- The field entries. -/
def fields : TableKind Field where
  toEntryKind := EntryKind.fields
  isDirect _ := true
  rename_of_get?_eq_some _ found := congrArg (Option.getD · _) found
  rename_inverse_empty := Field.followsTypes.mapTypes_still Chain.renameType_inverse_empty
  entries_inverse _ := rfl
  entries_onSources _ _ := rfl
  entries_onTargets _ _ := rfl

/-- The method entries. -/
def methods : TableKind Method where
  toEntryKind := EntryKind.methods
  isDirect _ := true
  rename_of_get?_eq_some _ found := congrArg (Option.getD · _) found
  rename_inverse_empty := Method.followsTypes.mapTypes_still Chain.renameType_inverse_empty
  entries_inverse _ := rfl
  entries_onSources _ _ := rfl
  entries_onTargets _ _ := rfl

variable {α : Type} [DecidableEq α] {kind : TableKind α}

/-- A direct target of a chain is led back to a source of the chain. -/
theorem leadBack_mem_keys_of_isDirect
    {before : List Layer}
    {value : α}
    (direct : kind.isDirect value = true)
    (produced : value ∈ (kind.entries (chain before)).values) :
    kind.leadBack before value ∈ (kind.entries (chain before)).keys := by
  rw [← OrderedMap.mem_keys_inverse, OrderedMap.mem_keys_iff] at produced
  obtain ⟨source, led⟩ := produced
  have found := kind.entries_inverse (chain before) ▸ led
  rw [EntryKind.leadBack, kind.rename_of_get?_eq_some direct found]
  exact OrderedMap.mem_keys_of_get?_inverse led

/-- A table that starts from direct targets of a chain adds nothing to it. -/
theorem addsNothing_stored
    {before : List Layer}
    {table : MappingTable}
    (direct : ∀ source ∈ (kind.entries table).keys, kind.isDirect source = true)
    (produced : ∀ source ∈ (kind.entries table).keys,
      source ∈ (kind.entries (chain before)).values) :
    kind.AddsNothing before (.stored table) :=
  fun source key => leadBack_mem_keys_of_isDirect (direct source key) (produced source key)

/-- Chained with its inverse, a table without repeated targets leads each of its sources
back to itself. -/
theorem get?_chain_inverse
    {table : MappingTable}
    (distinctTargets : table.DistinctTargets)
    (distinct : (kind.entries table).values.Nodup)
    (direct : ∀ target ∈ (kind.entries table).values, kind.isDirect target = true)
    (source : α) :
    (kind.entries (chain [.stored table, .stored table.inverse])).get? source =
      ((kind.entries table).get? source).map fun _ => source := by
  have alone := Chain.chain_singleton distinctTargets
  have targets : ∀ target ∈ (kind.entries table.inverse).keys,
      target ∈ (kind.entries table).values := by
    intro target key
    rwa [kind.entries_inverse, OrderedMap.mem_keys_inverse] at key
  have nothing : kind.AddsNothing [.stored table] (.stored table.inverse) := by
    apply addsNothing_stored
    · exact fun target key => direct target (targets target key)
    · rwa [alone]
  have carried := nothing.get?_chain source
  rw [alone] at carried
  refine carried.trans ?_
  cases found : (kind.entries table).get? source with
  | none => rfl
  | some target =>
      have targetIn := OrderedMap.mem_values_of_get?_eq_some found
      have back := OrderedMap.get?_inverse_of_get? distinct found
      rw [← kind.entries_inverse] at back
      exact congrArg some (kind.rename_of_get?_eq_some (direct target targetIn) back)

end TableKind

/-- The table that leads each source of a table to itself. -/
def MappingTable.identity (table : MappingTable) : MappingTable where
  classes := table.classes.mapValues fun source _ => source
  fields := table.fields.mapValues fun source _ => source
  methods := table.methods.mapValues fun source _ => source

namespace Chain

variable {table : MappingTable}

/-- The chain of a table without repeated targets and its inverse leads each source of the
table to itself, and it has no other entry. -/
theorem sameEntries_chain_inverse_identity
    (renamesClasses : table.RenamesClasses)
    (distinct : table.DistinctTargets) :
    (chain [.stored table, .stored table.inverse]).sameEntries table.identity = true := by
  simp only [MappingTable.sameEntries_iff, OrderedMap.sameEntries_iff_get?,
    MappingTable.identity, OrderedMap.get?_mapValues]
  refine ⟨?classes, ?fields, ?methods⟩
  case classes =>
    exact TableKind.classes.get?_chain_inverse distinct distinct.classes
      renamesClasses.classTargets
  case fields =>
    exact TableKind.fields.get?_chain_inverse distinct distinct.fields fun _ _ => rfl
  case methods =>
    exact TableKind.methods.get?_chain_inverse distinct distinct.methods fun _ _ => rfl

/-- The names that two classes exchange come back as well. -/
theorem sameEntries_chain_inverse_identity_exchangingTable :
    MappingTable.exchangingTable.RenamesClasses ∧
    MappingTable.exchangingTable.DistinctTargets ∧
    (chain [.stored MappingTable.exchangingTable,
        .stored MappingTable.exchangingTable.inverse]).sameEntries
      MappingTable.exchangingTable.identity = true ∧
    MappingTable.exchangingTable.identity.classes.entries =
      [(.ofLetter 'a', .ofLetter 'a'), (.ofLetter 'b', .ofLetter 'b'),
        (.ofLetter 'c', .ofLetter 'c')] := by
  have renamesClasses : MappingTable.exchangingTable.RenamesClasses := by decide
  have distinct : MappingTable.exchangingTable.DistinctTargets :=
    ⟨by decide, by decide, by decide⟩
  exact ⟨renamesClasses, distinct,
    sameEntries_chain_inverse_identity renamesClasses distinct, by decide⟩

end Chain
end ObfuscationMap
