import ObfuscationMap.Chain.Report

/-!
# Faults in chains

A chain asks its layers for new names of the targets that it has so far. It meets a fault
exactly if some layer meets one with a target of the chain before it. Only naming rules
answer with texts that are no names, so stored tables and package moves meet no fault.
-/

namespace ObfuscationMap

namespace Report

theorem fault_append (first second : Report) :
    (first ++ second).fault = first.fault.or second.fault := by
  change (append first second).fault = _
  obtain ⟨notices, fault⟩ := first
  cases fault <;> rfl

theorem fault_append_eq_none_iff (first second : Report) :
    (first ++ second).fault = none ↔ first.fault = none ∧ second.fault = none := by
  rw [fault_append, Option.or_eq_none_iff]

theorem fault_join_eq_none_iff (reports : List Report) :
    (join reports).fault = none ↔ ∀ report ∈ reports, report.fault = none := by
  induction reports with
  | nil => exact iff_of_true rfl fun _ reportIn => absurd reportIn List.not_mem_nil
  | cons first rest step =>
      change (first ++ join rest).fault = none ↔ _
      rw [fault_append_eq_none_iff, step, List.forall_mem_cons]

end Report

namespace Layer

/-- A layer meets no fault when it is asked for the fields and methods that a table leads
to. -/
structure NamesTargets (layer : Layer) (table : MappingTable) : Prop where
  fields : ∀ target ∈ table.fields.values, (layer.reportField? target).fault = none
  methods : ∀ target ∈ table.methods.values, (layer.reportMethod? target).fault = none

/-- No layer meets a fault with a type. -/
theorem fault_reportType (layer : Layer) (type : JavaType) :
    (layer.reportType type).fault = none := by
  rw [reportType]
  cases type.innermost with
  | reference name =>
      cases layer with
      | moved moves =>
          rw [reportClass?, PackageMoves.reportMove]
          split <;> rfl
      | _ => rfl
  | _ => cases layer <;> rfl

theorem fault_join_reportType (layer : Layer) (types : List JavaType) :
    (Report.join (types.map layer.reportType)).fault = none :=
  (Report.fault_join_eq_none_iff _).2 (List.forall_mem_map.2 fun type _ =>
    layer.fault_reportType type)

/-- Renaming a field meets a fault exactly if the question about the field itself does. -/
theorem fault_reportField (layer : Layer) (field : Field) :
    (layer.reportField field).fault = (layer.reportField? field).fault := by
  rw [reportField, Report.fault_append, fault_reportType, Option.or_none]

/-- Renaming a method meets a fault exactly if the question about the method itself
does. -/
theorem fault_reportMethod (layer : Layer) (method : Method) :
    (layer.reportMethod method).fault = (layer.reportMethod? method).fault := by
  rw [reportMethod, Report.fault_append, Report.fault_append, Report.fault_append,
    fault_reportType, fault_reportType, fault_join_reportType, Option.or_none, Option.or_none,
    Option.or_none]

theorem fault_reportOnTargets_eq_none_iff (layer : Layer) (table : MappingTable) :
    (layer.reportOnTargets table).fault = none ↔ layer.NamesTargets table := by
  rw [reportOnTargets, reportAll, Report.fault_append_eq_none_iff,
    Report.fault_append_eq_none_iff]
  simp only [fault_join_reportType, Report.fault_join_eq_none_iff, List.forall_mem_map,
    fault_reportField, fault_reportMethod, true_and]
  exact ⟨fun named => ⟨named.1, named.2⟩, fun named => ⟨named.fields, named.methods⟩⟩

theorem namesTargets_stored (stored table : MappingTable) :
    (Layer.stored stored).NamesTargets table :=
  ⟨fun _ _ => rfl, fun _ _ => rfl⟩

end Layer

theorem MappingTable.fault_reportInverse (table : MappingTable) :
    table.reportInverse.fault = none := by
  rw [reportInverse]
  split <;> rfl

namespace Chain

/-- Adding a layer meets a fault exactly if the layer does with a target of the chain. -/
theorem fault_reportExtend_eq_none_iff (chain : Chain) (index : Nat) (layer : Layer) :
    (chain.reportExtend index layer).fault = none ↔ layer.NamesTargets chain.table := by
  rw [← Layer.fault_reportOnTargets_eq_none_iff, reportExtend,
    Report.fault_append_eq_none_iff]
  exact and_iff_left rfl

theorem fault_reportLayers_eq_none_iff
    (start : Chain)
    (index : Nat)
    (layers : List Layer) :
    (start.reportLayers false index layers).fault = none ↔
      ∀ before layer after, layers = before ++ layer :: after ->
        layer.NamesTargets (before.foldl extend start).table := by
  induction layers generalizing start index with
  | nil => exact iff_of_true rfl fun before layer after split => by simp at split
  | cons first rest step =>
      rw [reportLayers, Report.fault_append_eq_none_iff, Bool.false_and,
        if_neg Bool.false_ne_true, Report.fault_append_eq_none_iff,
        fault_reportExtend_eq_none_iff, step]
      constructor
      · rintro ⟨-, firstNames, restNames⟩ before layer after split
        cases before with
        | nil =>
            obtain ⟨rfl, rfl⟩ := List.cons.inj split
            exact firstNames
        | cons head before =>
            obtain ⟨rfl, rfl⟩ := List.cons.inj split
            exact restNames before layer after rfl
      · intro names
        refine ⟨start.table.fault_reportInverse, names [] first rest rfl, ?_⟩
        rintro before layer after rfl
        exact names (first :: before) layer after rfl

/-- A chain meets a fault exactly if one of its layers does with a target of the chain of
the layers before it. -/
theorem fault_reportChain_eq_none_iff (layers : List Layer) :
    (reportChain false layers).fault = none ↔
      ∀ before layer after, layers = before ++ layer :: after ->
        layer.NamesTargets (chain before) :=
  fault_reportLayers_eq_none_iff empty 0 layers

/-- A layer after a table meets a fault exactly with a target of the table's chain. -/
theorem fault_reportChain_stored_eq_none_iff (table : MappingTable) (layer : Layer) :
    (reportChain false [.stored table, layer]).fault = none ↔
      layer.NamesTargets (chain [.stored table]) := by
  rw [fault_reportChain_eq_none_iff]
  constructor
  · exact fun names => names [.stored table] layer [] rfl
  · intro last before other after split
    rcases before with _ | ⟨first, _ | ⟨second, before⟩⟩
    · obtain ⟨rfl, -⟩ := List.cons.inj split
      exact Layer.namesTargets_stored table _
    · obtain ⟨rfl, rest⟩ := List.cons.inj split
      obtain ⟨rfl, -⟩ := List.cons.inj rest
      exact last
    · simp at split

end Chain
end ObfuscationMap
