import ObfuscationMap.Workspace

/-!
# What actions yield

An action may fail and leave notices, and it reads and writes the ledger, but the tables that
it ends with depend on none of this: each action has one description of what it yields.
-/

namespace ObfuscationMap
namespace MappingAction

variable {α β : Type}

/-- Whether an action may end with a value, from some ledger and after some notices. -/
def Yields (action : MappingAction α) (value : α) : Prop :=
  ∃ ledger notices after left,
    (action.run ledger).run.run notices = (.ok (value, after), left)

/-- Actions one after another have both ended. -/
theorem Yields.exists_of_bind
    {first : MappingAction α}
    {next : α -> MappingAction β}
    {value : β}
    (yields : (first >>= next).Yields value) :
    ∃ middle, first.Yields middle ∧ (next middle).Yields value := by
  obtain ⟨ledger, notices, after, left, run⟩ := yields
  rw [StateT.run_bind, ExceptT.run_bind, StateT.run_bind] at run
  cases started : (first.run ledger).run.run notices with
  | mk outcome leftBetween =>
      rw [started] at run
      cases outcome with
      | error failure => cases run
      | ok reached => exact ⟨reached.1, ⟨_, _, _, _, started⟩, ⟨_, _, _, _, run⟩⟩

theorem Yields.eq_of_pure
    {value result : α}
    (yields : (pure value : MappingAction α).Yields result) :
    result = value := by
  obtain ⟨ledger, notices, after, left, ⟨⟩⟩ := yields
  rfl

theorem not_yields_throw (failure : Failure) (result : α) :
    ¬(throw failure : MappingAction α).Yields result := by
  rintro ⟨ledger, notices, after, left, ⟨⟩⟩

theorem Yields.eq_ok_of_accept
    {outcome : Except MappingError α}
    {value : α}
    (yields : (accept outcome).Yields value) :
    outcome = .ok value := by
  cases outcome with
  | error refusal => exact absurd yields (not_yields_throw _ _)
  | ok other => rw [Yields.eq_of_pure yields]

theorem Yields.table_of_share
    {table : MappingTable}
    {result : SharedTable}
    (yields : (share table).Yields result) :
    result.table = table := by
  obtain ⟨ledger, notices, after, left, ⟨⟩⟩ := yields
  rfl

/-- After a report, a table is shared as it would be without. -/
theorem Yields.table_of_leave_share
    {report : Report}
    {table : MappingTable}
    {result : SharedTable}
    (yields : (do leave report; share table).Yields result) :
    result.table = table := by
  obtain ⟨-, -, yields⟩ := yields.exists_of_bind
  exact yields.table_of_share

theorem Yields.table_of_invertShared
    {table result : SharedTable}
    (yields : (invertShared table).Yields result) :
    result.table = table.table.inverse := by
  unfold invertShared at yields
  obtain ⟨ledger, -, yields⟩ := yields.exists_of_bind
  simp only at yields
  split at yields
  · exact yields.table_of_share
  · obtain ⟨-, -, yields⟩ := yields.exists_of_bind
    obtain ⟨-, -, yields⟩ := yields.exists_of_bind
    exact yields.table_of_share

end MappingAction

namespace Mapping

open MappingAction

variable {mapping of : Mapping} {mappings : List Mapping} {result : SharedTable}

/-- An edit changes an editable table, and it leaves other mappings as they are. -/
theorem edit_cases
    {change : Edit}
    {changed : Mapping}
    (yields : (mapping.edit change).Yields changed) :
    changed = mapping ∨
      ∃ table next, mapping = .editable table ∧ change.apply table = .ok next ∧
        changed = .editable next := by
  unfold edit at yields
  split at yields
  · next table =>
      obtain ⟨next, accepted, yields⟩ := yields.exists_of_bind
      exact .inr ⟨table, next, rfl, accepted.eq_ok_of_accept, yields.eq_of_pure⟩
  · exact absurd yields (not_yields_throw _ _)
  · exact .inl yields.eq_of_pure

theorem table_of_yields_snapshot (yields : mapping.snapshot.Yields result) :
    result.table = mapping.entries := by
  cases mapping with
  | shared table =>
      rw [yields.eq_of_pure]
      rfl
  | _ => exact yields.table_of_share

theorem table_of_yields_inverse (yields : mapping.inverse.Yields result) :
    result.table = mapping.entries.inverse := by
  obtain ⟨copy, copied, yields⟩ := yields.exists_of_bind
  rw [yields.table_of_invertShared, table_of_yields_snapshot copied]

theorem table_of_yields_onSources (yields : (mapping.onSources of).Yields result) :
    result.table = mapping.toLayer.onSources of.entries :=
  yields.table_of_leave_share

theorem table_of_yields_onTargets (yields : (mapping.onTargets of).Yields result) :
    result.table = mapping.toLayer.onTargets of.entries :=
  yields.table_of_leave_share

theorem table_of_yields_chain (yields : (chain mappings).Yields result) :
    result.table = ObfuscationMap.chain (mappings.map toLayer) :=
  yields.table_of_leave_share

theorem strictChain_of_yields (yields : (strictChain mappings).Yields result) :
    ObfuscationMap.strictChain (mappings.map toLayer) = .ok result.table := by
  obtain ⟨-, -, yields⟩ := yields.exists_of_bind
  obtain ⟨table, accepted, yields⟩ := yields.exists_of_bind
  rw [accepted.eq_ok_of_accept, yields.table_of_share]

end Mapping

theorem SharedTable.table_of_yields_movePackages
    {table result : SharedTable}
    {answer : Text -> Option Text}
    (yields : (table.movePackages answer).Yields result) :
    result.table = table.table.movePackages answer := by
  obtain ⟨-, -, yields⟩ := yields.exists_of_bind
  rw [MappingTable.movePackages]
  split at yields
  · next moved found => rw [yields.table_of_share, found, Option.getD_some]
  · next found => rw [yields.eq_of_pure, found, Option.getD_none]

theorem TextFormat.readDecoded_of_yields
    {format : TextFormat}
    {lines : List (Option Text)}
    {result : SharedTable}
    (yields : (format.readShared lines).Yields result) :
    format.readDecoded lines = .ok result.table := by
  obtain ⟨-, -, yields⟩ := yields.exists_of_bind
  split at yields
  · next table read => rw [read, yields.table_of_share]
  · exact absurd yields (MappingAction.not_yields_throw _ _)

end ObfuscationMap
