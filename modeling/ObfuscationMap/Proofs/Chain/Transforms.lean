import ObfuscationMap.Proofs.Chain.Faults
import ObfuscationMap.Proofs.Chain.Leading

/-!
# Tables led on by a layer

A layer can lead on the targets of a table or its sources, and the outcome is a table again.
Led on at the targets, the table stands for the layer: a layer without entries, such as a
renamer or package moves, makes the same of the table that it led on as the stored outcome
does. Led on at the sources, the inverse of the outcome renames the sources of the table in
a chain, if the layer leads no two of them to one. Targets may be repeated in either case.
-/

namespace ObfuscationMap

/-- A map that is put together from keys and a function answers by the function for these
keys alone. -/
theorem OrderedMap.get?_ofList_map
    {κ ν : Type}
    [DecidableEq κ]
    (answer : κ -> ν)
    (keys : List κ)
    (key : κ) :
    (ofList (keys.map fun key => (key, answer key))).get? key =
      if key ∈ keys then some (answer key) else none := by
  rw [get?_ofList]
  split
  · next present =>
      apply Entries.find?_eq_some_of_unique
      · exact List.mem_reverse.2 (List.mem_map_of_mem (f := fun key => (key, answer key)) present)
      · intro value valueIn
        obtain ⟨other, -, same⟩ := List.mem_map.1 (List.mem_reverse.1 valueIn)
        obtain ⟨rfl, rfl⟩ := Prod.mk.inj same
        rfl
  · next absent =>
      rw [Entries.find?_eq_none_iff, Entries.keys, List.map_reverse, List.mem_reverse,
        List.map_map]
      simpa [Function.comp_def] using absent

theorem MappingTable.distinctTargets_inverse (table : MappingTable) :
    table.inverse.DistinctTargets where
  classes := table.classes.nodup_values_inverse
  fields := table.fields.nodup_values_inverse
  methods := table.methods.nodup_values_inverse

namespace TableKind

variable {α : Type} [DecidableEq α] {kind : TableKind α} {table : MappingTable} {layer : Layer}

section Targets

theorem get?_onTargets (layer : Layer) (table : MappingTable) (target : α) :
    (kind.entries (layer.onTargets table)).get? target =
      if target ∈ (kind.entries table).values then
        some (kind.rename layer.toRenaming target)
      else none := by
  rw [kind.entries_onTargets, OrderedMap.get?_ofList_map]

theorem mem_keys_onTargets (layer : Layer) (table : MappingTable) (target : α) :
    target ∈ (kind.entries (layer.onTargets table)).keys ↔
      target ∈ (kind.entries table).values := by
  rw [OrderedMap.mem_keys_iff]
  simp only [get?_onTargets]
  split <;> simp [*]

/-- After a table with direct targets, a layer without entries makes the same as the table
that it leads from these targets. -/
theorem get?_chain_onTargets
    (direct : ∀ target ∈ (kind.entries table).values, kind.isDirect target = true)
    (noEntries : layer.entries = .empty)
    (source : α) :
    (kind.entries (chain [.stored table, .stored (layer.onTargets table)])).get? source =
      (kind.entries (chain [.stored table, layer])).get? source := by
  have storedNothing :
      kind.AddsNothing [.stored table] (.stored (layer.onTargets table)) := by
    apply addsNothing_stored
    · exact fun target key => direct target ((mem_keys_onTargets layer table target).1 key)
    · intro target key
      rw [mem_values_chain_stored]
      exact (mem_keys_onTargets layer table target).1 key
  have layerNothing : kind.AddsNothing [.stored table] layer :=
    EntryKind.addsNothing_of_entries_eq_empty noEntries
  refine (storedNothing.get?_chain source).trans
    (Eq.trans ?_ (layerNothing.get?_chain source).symm)
  cases found : (kind.entries (chain [.stored table])).get? source with
  | none => rfl
  | some target =>
      have targetIn : target ∈ (kind.entries table).values := by
        rw [← mem_values_chain_stored]
        exact OrderedMap.mem_values_of_get?_eq_some found
      have answer : (kind.entries (layer.onTargets table)).get? target =
          some (kind.rename layer.toRenaming target) := by
        rw [get?_onTargets, if_pos targetIn]
      exact congrArg some (kind.rename_of_get?_eq_some (direct target targetIn) answer)

end Targets

section Sources

/-- A layer leads no two sources of a table to one. -/
def KeepsSourcesApart (kind : TableKind α) (layer : Layer) (table : MappingTable) : Prop :=
  ∀ left ∈ (kind.entries table).keys, ∀ right ∈ (kind.entries table).keys,
    kind.rename layer.toRenaming left = kind.rename layer.toRenaming right -> left = right

instance (kind : TableKind α) (layer : Layer) (table : MappingTable) :
    Decidable (kind.KeepsSourcesApart layer table) :=
  inferInstanceAs (Decidable (∀ _ ∈ _, ∀ _ ∈ _, _ -> _))

/-- What a layer makes of the sources of a table. -/
structure LeadsSourcesOn
    (kind : TableKind α)
    (layer : Layer)
    (table : MappingTable) : Prop where
  /-- Led on at the sources, the table has its sources, each with its new form. -/
  onSources : ∀ source target,
    (kind.entries (layer.onSources table)).get? source = some target ↔
      source ∈ (kind.entries table).keys ∧ target = kind.rename layer.toRenaming source
  /-- The inverse of this, followed by the table, leads the new form of each source where
  the table leads the source. -/
  inverse : ∀ source target,
    (kind.entries (chain [.stored (layer.onSources table).inverse, .stored table])).get?
        source = some target ↔
      ∃ old, (kind.entries table).get? old = some target ∧
        source = kind.rename layer.toRenaming old

theorem get?_onSources_eq_some_iff (layer : Layer) (table : MappingTable) (source target : α) :
    (kind.entries (layer.onSources table)).get? source = some target ↔
      source ∈ (kind.entries table).keys ∧ target = kind.rename layer.toRenaming source := by
  rw [kind.entries_onSources, OrderedMap.get?_mapValues, Option.map_eq_some_iff,
    OrderedMap.mem_keys_iff]
  constructor
  · rintro ⟨value, found, rfl⟩
    exact ⟨⟨value, found⟩, rfl⟩
  · rintro ⟨⟨value, found⟩, rfl⟩
    exact ⟨value, found, rfl⟩

theorem KeepsSourcesApart.nodup_values_onSources (apart : kind.KeepsSourcesApart layer table) :
    (kind.entries (layer.onSources table)).values.Nodup := by
  apply OrderedMap.nodup_values_of_source_unique
  intro left right target leftFound rightFound
  rw [get?_onSources_eq_some_iff] at leftFound rightFound
  exact apart left leftFound.1 right rightFound.1 (leftFound.2.symm.trans rightFound.2)

/-- A layer that keeps the sources of a table apart leads them on, if they are direct. -/
theorem KeepsSourcesApart.leadsSourcesOn
    (apart : kind.KeepsSourcesApart layer table)
    (direct : ∀ source ∈ (kind.entries table).keys, kind.isDirect source = true) :
    kind.LeadsSourcesOn layer table := by
  refine ⟨get?_onSources_eq_some_iff layer table, fun source target => ?_⟩
  have distinct := apart.nodup_values_onSources
  have alone := Chain.chain_singleton (layer.onSources table).distinctTargets_inverse
  have undone : ∀ old, (kind.entries (layer.onSources table).inverse).get? source = some old ↔
      old ∈ (kind.entries table).keys ∧ source = kind.rename layer.toRenaming old := by
    intro old
    rw [kind.entries_inverse, OrderedMap.get?_inverse_eq_some_iff_of_nodup distinct,
      get?_onSources_eq_some_iff]
  -- The inverse leads to all sources of the table.
  have nothing : kind.AddsNothing [.stored (layer.onSources table).inverse] (.stored table) := by
    apply addsNothing_stored direct
    intro old key
    rw [alone, kind.entries_inverse, OrderedMap.mem_values_inverse_of_nodup distinct]
    exact OrderedMap.mem_keys_of_get?_eq_some
      ((get?_onSources_eq_some_iff layer table old _).2 ⟨key, rfl⟩)
  have carried := nothing.get?_chain source
  rw [alone] at carried
  refine (Eq.congr_left carried).trans ?_
  simp only [Option.map_eq_some_iff, undone]
  constructor
  · rintro ⟨old, ⟨key, rfl⟩, rfl⟩
    obtain ⟨value, found⟩ := (OrderedMap.mem_keys_iff _ old).1 key
    refine ⟨old, ?_, rfl⟩
    rw [found]
    exact congrArg some (kind.rename_of_get?_eq_some (direct old key) found).symm
  · rintro ⟨old, found, rfl⟩
    have key := OrderedMap.mem_keys_of_get?_eq_some found
    exact ⟨old, ⟨key, rfl⟩, kind.rename_of_get?_eq_some (direct old key) found⟩

end Sources

end TableKind

namespace Chain

variable {table : MappingTable} {layer : Layer}

/-- The fields and methods that a table leads to are those that its chain leads to. -/
theorem namesTargets_chain_stored_iff (table : MappingTable) (layer : Layer) :
    layer.NamesTargets (chain [.stored table]) ↔ layer.NamesTargets table := by
  have fields := TableKind.fields.mem_values_chain_stored table
  have methods := TableKind.methods.mem_values_chain_stored table
  constructor
  · exact fun names => ⟨fun target targetIn => names.fields target ((fields target).2 targetIn),
      fun target targetIn => names.methods target ((methods target).2 targetIn)⟩
  · exact fun names => ⟨fun target targetIn => names.fields target ((fields target).1 targetIn),
      fun target targetIn => names.methods target ((methods target).1 targetIn)⟩

/-- A renamer or package moves, as layers without entries, make the same of a table as the
table that they lead from its targets. They meet a fault in the chain exactly if they meet
one when they lead the targets on; the stored table meets none. -/
theorem sameEntries_chain_onTargets
    (renamesClasses : table.RenamesClasses)
    (noEntries : layer.entries = .empty) :
    (chain [.stored table, .stored (layer.onTargets table)]).sameEntries
      (chain [.stored table, layer]) = true ∧
    ((reportChain false [.stored table, layer]).fault = none ↔
      (layer.reportOnTargets table).fault = none) ∧
    (reportChain false [.stored table, .stored (layer.onTargets table)]).fault = none := by
  refine ⟨?same, ?fault, ?stored⟩
  case same =>
    simp only [MappingTable.sameEntries_iff, OrderedMap.sameEntries_iff_get?]
    refine ⟨?classes, ?fields, ?methods⟩
    case classes =>
      exact TableKind.classes.get?_chain_onTargets renamesClasses.classTargets noEntries
    case fields =>
      exact TableKind.fields.get?_chain_onTargets (fun _ _ => rfl) noEntries
    case methods =>
      exact TableKind.methods.get?_chain_onTargets (fun _ _ => rfl) noEntries
  case fault =>
    rw [fault_reportChain_stored_eq_none_iff, namesTargets_chain_stored_iff,
      Layer.fault_reportOnTargets_eq_none_iff]
  case stored =>
    rw [fault_reportChain_stored_eq_none_iff]
    exact Layer.namesTargets_stored _ _

/-- Two classes, two fields and two methods, each pair with one new name. -/
def repeatingTable : MappingTable where
  classes := .ofList [(.ofLetter 'a', .ofLetter 's'), (.ofLetter 'c', .ofLetter 's')]
  fields := .ofList [
    (⟨.ofLetter 'a', .ofLetter 'x'⟩, ⟨.ofLetter 's', .ofLetter 'y'⟩),
    (⟨.ofLetter 'c', .ofLetter 'x'⟩, ⟨.ofLetter 's', .ofLetter 'y'⟩)]
  methods := .ofList [
    (.onto (.ofLetter 'a') (.ofLetter 'f') (.ofLetter 'c'),
      .onto (.ofLetter 's') (.ofLetter 'g') (.ofLetter 's')),
    (.onto (.ofLetter 'c') (.ofLetter 'f') (.ofLetter 'a'),
      .onto (.ofLetter 's') (.ofLetter 'g') (.ofLetter 's'))]

/-- One name for all classes, and one for all fields. -/
def levellingLayer : Layer :=
  .computed { classRule := some fun _ => .ofLetter 'z', fieldRule := some fun _ => ['n'] }

/-- One entry of each kind is left of the table, and the rules rename it by way of a stored
table as they do themselves. -/
theorem sameEntries_chain_onTargets_repeatingTable :
    repeatingTable.RenamesClasses ∧ levellingLayer.entries = .empty ∧
    (chain [.stored repeatingTable,
        .stored (levellingLayer.onTargets repeatingTable)]).sameEntries
      (chain [.stored repeatingTable, levellingLayer]) = true ∧
    (reportChain false [.stored repeatingTable, levellingLayer]).fault = none ∧
    (chain [.stored repeatingTable, levellingLayer]).fields.entries =
      [(⟨.ofLetter 'a', .ofLetter 'x'⟩, ⟨.ofLetter 'z', .ofLetter 'n'⟩)] := by
  have renamesClasses : repeatingTable.RenamesClasses := by decide
  have noEntries : levellingLayer.entries = .empty := rfl
  obtain ⟨same, fault, -⟩ := sameEntries_chain_onTargets renamesClasses noEntries
  exact ⟨renamesClasses, noEntries, same, fault.2 (by decide), by decide⟩

/-- A layer that keeps the classes, fields and methods that a table starts from apart leads
them on. The inverse of the outcome renames them in the table. -/
theorem leadsSourcesOn_of_keepsSourcesApart
    (classSources : table.ClassSources)
    (classes : TableKind.classes.KeepsSourcesApart layer table)
    (fields : TableKind.fields.KeepsSourcesApart layer table)
    (methods : TableKind.methods.KeepsSourcesApart layer table) :
    TableKind.classes.LeadsSourcesOn layer table ∧
    TableKind.fields.LeadsSourcesOn layer table ∧
    TableKind.methods.LeadsSourcesOn layer table :=
  ⟨classes.leadsSourcesOn classSources, fields.leadsSourcesOn fun _ _ => rfl,
    methods.leadsSourcesOn fun _ _ => rfl⟩

/-- A class and a method that share their new names with others keep their entries under the
names that the layer gives them. -/
theorem leadsSourcesOn_of_keepsSourcesApart_repeatingTable :
    repeatingTable.ClassSources ∧
    TableKind.classes.KeepsSourcesApart (.stored MappingTable.exchangingTable)
      repeatingTable ∧
    TableKind.fields.KeepsSourcesApart (.stored MappingTable.exchangingTable)
      repeatingTable ∧
    TableKind.methods.KeepsSourcesApart (.stored MappingTable.exchangingTable)
      repeatingTable ∧
    (chain [.stored ((Layer.stored MappingTable.exchangingTable).onSources
        repeatingTable).inverse, .stored repeatingTable]).classes.get? (.ofLetter 'b') =
      some (.ofLetter 's') ∧
    (chain [.stored ((Layer.stored MappingTable.exchangingTable).onSources
        repeatingTable).inverse, .stored repeatingTable]).methods.get?
          (.onto (.ofLetter 'b') (.ofLetter 'f') (.ofLetter 'd')) =
      some (.onto (.ofLetter 's') (.ofLetter 'g') (.ofLetter 's')) := by
  have classSources : repeatingTable.ClassSources := by decide
  have classes : TableKind.classes.KeepsSourcesApart (.stored MappingTable.exchangingTable)
      repeatingTable := by decide
  have fields : TableKind.fields.KeepsSourcesApart (.stored MappingTable.exchangingTable)
      repeatingTable := by decide
  have methods : TableKind.methods.KeepsSourcesApart (.stored MappingTable.exchangingTable)
      repeatingTable := by decide
  obtain ⟨ledClasses, -, ledMethods⟩ :=
    leadsSourcesOn_of_keepsSourcesApart classSources classes fields methods
  exact ⟨classSources, classes, fields, methods,
    (ledClasses.inverse _ _).2 ⟨.ofLetter 'a', by decide, by decide⟩,
    (ledMethods.inverse _ _).2
      ⟨.onto (.ofLetter 'a') (.ofLetter 'f') (.ofLetter 'c'), by decide, by decide⟩⟩

end Chain
end ObfuscationMap
