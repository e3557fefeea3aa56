import ObfuscationMap.MappingTable.Edit
import ObfuscationMap.Proofs.OrderedMap.History
import ObfuscationMap.Proofs.Renaming.Composition
import ObfuscationMap.Proofs.Sample

/-!
# Changing a table in place

A table is changed by calls, and a call that is refused goes on with what it left. Every call
checks and computes before it stores anything, so a refused call leaves the table alone. Each
map of the table can therefore be told from the log of the calls.
-/

namespace ObfuscationMap

/-- A change of a table that may be refused. What was changed before a refusal stays
changed. -/
abbrev TableAction := EStateM MappingError MappingTable

namespace TableAction

/-- Go on if a type is a class. -/
def checkClass (type : JavaType) : TableAction Unit :=
  if type.isClass then pure () else throw (.invalidName .type type.sourceName)

/-- The table that an action left behind, whether it was refused or not. -/
def tableLeft {α : Type} : EStateM.Result MappingError MappingTable α -> MappingTable
  | .ok _ table => table
  | .error _ table => table

end TableAction

namespace Edit

open TableAction OrderedMap

/-- Make a change in place. -/
def perform : Edit -> TableAction Unit
  | .setClass source target => do
      checkClass source
      checkClass target
      if source = target then
        modify fun table => { table with classes := table.classes.erase source }
      else
        modify fun table => { table with classes := table.classes.insert source target }
  | .setField source target => modify (·.putField source target)
  | .setMethod source target => modify (·.putMethod source target)
  | .setFieldName source name => do
      let owner := (← get).toRenaming.renameType source.owner
      let name <- MonadExcept.ofExcept (MemberName.ofText name)
      modify (·.putField source { owner, name })
  | .setMethodName source name => do
      let renamed := source.mapTypes (← get).toRenaming.renameType
      let name <- MonadExcept.ofExcept (MemberName.ofText name)
      modify (·.putMethod source { renamed with name })
  | .retainClasses keep => modify (·.retainClasses keep)
  | .retainFields keep => modify (·.retainFields keep)
  | .retainMethods keep => modify (·.retainMethods keep)
  | .clearClasses => modify (·.clearClasses)
  | .clearFields => modify (·.clearFields)
  | .clearMethods => modify (·.clearMethods)

/-- Make changes one after another, going on past refusals with the table they left. -/
def performAll (calls : List Edit) (table : MappingTable) : MappingTable :=
  calls.foldl (fun table call => tableLeft (call.perform.run table)) table

/-- The table after the first calls, from the empty table. -/
def after (calls : List Edit) (steps : Nat) : MappingTable :=
  performAll (calls.take steps) .empty

/-! ## The log of each map -/

/-- What a call does to the classes. A refused call and a call about members do nothing. -/
def classChange (_ : MappingTable) : Edit -> Change JavaType JavaType
  | .setClass (.reference source) (.reference target) =>
      if source = target then
        .unset (.reference source)
      else
        .set (.reference source) (.reference target)
  | .retainClasses keep => .select keep
  | .clearClasses => .select fun _ _ => false
  | _ => .keep

/-- What a call does to the fields. The types of a field that is given a name alone follow the
table of that time. -/
def fieldChange (table : MappingTable) : Edit -> Change Field Field
  | .setField source target => .set source target
  | .setFieldName source name =>
      match MemberName.ofText name with
      | .ok name => .set source { source.mapTypes table.toRenaming.renameType with name }
      | .error _ => .keep
  | .retainFields keep => .select keep
  | .clearFields => .select fun _ _ => false
  | _ => .keep

/-- What a call does to the methods. The types of a method that is given a name alone follow
the table of that time. -/
def methodChange (table : MappingTable) : Edit -> Change Method Method
  | .setMethod source target => .set source target
  | .setMethodName source name =>
      match MemberName.ofText name with
      | .ok name => .set source { source.mapTypes table.toRenaming.renameType with name }
      | .error _ => .keep
  | .retainMethods keep => .select keep
  | .clearMethods => .select fun _ _ => false
  | _ => .keep

/-- The log of a map: what each call does to it, at the table of that time. -/
def logOf
    {κ : Type}
    (change : MappingTable -> Edit -> Change κ κ)
    (calls : List Edit)
    (step : Nat) : Change κ κ :=
  match calls[step]? with
  | some call => change (after calls step) call
  | none => .keep

/-! ## Single calls -/

theorem run_perform_setClass (table : MappingTable) (source target : ClassName) :
    (perform (.setClass (.reference source) (.reference target))).run table =
      if source = target then
        .ok () { table with classes := table.classes.erase (.reference source) }
      else
        .ok () (table.putClass source target) := by
  have checked : perform (.setClass (.reference source) (.reference target)) =
      if JavaType.reference source = .reference target then
        modify fun table => { table with classes := table.classes.erase (.reference source) }
      else
        modify (·.putClass source target) := rfl
  simp only [checked, JavaType.reference.injEq]
  split <;> rfl

/-- A call changes a table in place as it changes a copy, and leaves it alone if it is
refused. -/
theorem run_perform (table : MappingTable) (call : Edit) :
    call.perform.run table =
      match call.apply table with
      | .ok changed => .ok () changed
      | .error cause => .error cause table := by
  cases call with
  | setClass source target =>
      cases source with
      | reference source =>
          cases target with
          | reference target =>
              rw [run_perform_setClass, apply_setClass]
              split <;> rfl
          | _ => rfl
      | _ => rfl
  | setFieldName source name =>
      rw [apply, MappingTable.setFieldName, perform]
      cases MemberName.ofText name <;> rfl
  | setMethodName source name =>
      rw [apply, MappingTable.setMethodName, perform]
      cases MemberName.ofText name <;> rfl
  | _ => rfl

theorem apply_select_false {κ ν : Type} [DecidableEq κ] (map : OrderedMap κ ν) :
    (Change.select fun _ _ => false).apply map = ∅ :=
  OrderedMap.ext _ _ (List.filter_false _)

/-- A call does to each map what its log says. -/
theorem tableLeft_run_perform (table : MappingTable) (call : Edit) :
    tableLeft (call.perform.run table) = {
      classes := (call.classChange table).apply table.classes
      fields := (call.fieldChange table).apply table.fields
      methods := (call.methodChange table).apply table.methods } := by
  rw [run_perform]
  cases call with
  | setClass source target =>
      cases source with
      | reference source =>
          cases target with
          | reference target =>
              rw [apply_setClass, classChange]
              by_cases same : source = target
              · rw [if_pos same, if_pos same]
                rfl
              · rw [if_neg same, if_neg same]
                rfl
          | _ => rfl
      | _ => rfl
  | setFieldName source name =>
      rw [apply, MappingTable.setFieldName, fieldChange]
      cases MemberName.ofText name <;> rfl
  | setMethodName source name =>
      rw [apply, MappingTable.setMethodName, methodChange]
      cases MemberName.ofText name <;> rfl
  | clearClasses =>
      rw [classChange, apply_select_false]
      rfl
  | clearFields =>
      rw [fieldChange, apply_select_false]
      rfl
  | clearMethods =>
      rw [methodChange, apply_select_false]
      rfl
  | _ => rfl

/-- Only different classes are given class entries. -/
theorem isClass_of_classChange_eq_set
    {table : MappingTable}
    {call : Edit}
    {source target : JavaType}
    (given : call.classChange table = .set source target) :
    source.isClass = true ∧ target.isClass = true ∧ source ≠ target := by
  unfold classChange at given
  split at given
  · split at given
    · cases given
    · next apart =>
        cases given
        exact ⟨rfl, rfl, fun same => apart (JavaType.reference.inj same)⟩
  all_goals cases given

/-! ## Sequences of calls -/

theorem after_succ (calls : List Edit) (step : Nat) :
    after calls (step + 1) =
      match calls[step]? with
      | some call => tableLeft (call.perform.run (after calls step))
      | none => after calls step := by
  have split : after calls (step + 1) =
      performAll calls[step]?.toList (after calls step) := by
    rw [after, List.take_add_one, performAll, List.foldl_append]
    rfl
  rw [split]
  cases calls[step]? <;> rfl

/-- Each call does to each map what its log says. -/
theorem after_succ_eq_apply (calls : List Edit) (step : Nat) :
    after calls (step + 1) = {
      classes := (logOf classChange calls step).apply (after calls step).classes
      fields := (logOf fieldChange calls step).apply (after calls step).fields
      methods := (logOf methodChange calls step).apply (after calls step).methods } := by
  rw [after_succ, logOf, logOf, logOf]
  cases calls[step]? with
  | some call => exact tableLeft_run_perform (after calls step) call
  | none => rfl

/-- Calls that change a table in place change it as a copy is changed, and a refused call
leaves it alone. After any calls, from the empty table, class entries lead from classes to
other classes, and each map is told by its log: it has the entries that a call gave and no
later one took away, in the order in which their sources came in to stay. -/
theorem performAll_followsLog (calls : List Edit) :
    (∀ (table : MappingTable) (call : Edit), call.perform.run table =
      match call.apply table with
      | .ok changed => .ok () changed
      | .error cause => .error cause table) ∧
    (∀ entry ∈ (performAll calls .empty).classes.entries,
      entry.1.isClass = true ∧ entry.2.isClass = true ∧ entry.1 ≠ entry.2) ∧
    after calls calls.length = performAll calls .empty ∧
    FollowsLog (fun step => (after calls step).classes) (logOf classChange calls) calls.length ∧
    FollowsLog (fun step => (after calls step).fields) (logOf fieldChange calls) calls.length ∧
    FollowsLog (fun step => (after calls step).methods) (logOf methodChange calls)
      calls.length := by
  have whole : after calls calls.length = performAll calls .empty := by
    rw [after, List.take_length]
  have classes : FollowsLog (fun step => (after calls step).classes) (logOf classChange calls)
      calls.length :=
    followsLog rfl (fun step => by rw [after_succ_eq_apply]) calls.length
  refine ⟨run_perform, ?entries, whole, classes,
    followsLog rfl (fun step => by rw [after_succ_eq_apply]) calls.length,
    followsLog rfl (fun step => by rw [after_succ_eq_apply]) calls.length⟩
  case entries =>
    rintro ⟨source, target⟩ entryIn
    rw [← whole, ← get?_eq_some_iff, classes.lookup] at entryIn
    obtain ⟨step, -, given, -⟩ := entryIn
    rw [logOf] at given
    split at given
    · exact isClass_of_classChange_eq_set given
    · cases given

/-- A class that was removed in between comes last. -/
example : (performAll [
    .setClass (.ofLetter 'a') (.ofLetter 'b'), .setClass (.ofLetter 'c') (.ofLetter 'd'),
    .setClass (.ofLetter 'a') (.ofLetter 'a'), .setClass (.ofLetter 'a') (.primitive .int),
    .setClass (.ofLetter 'a') (.ofLetter 'e')] .empty).classes.entries =
      [(.ofLetter 'c', .ofLetter 'd'), (.ofLetter 'a', .ofLetter 'e')] := by
  decide

end Edit
end ObfuscationMap
