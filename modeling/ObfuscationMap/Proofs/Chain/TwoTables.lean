import ObfuscationMap.Proofs.Chain.TwoMaps
import ObfuscationMap.Proofs.MappingTable.Inverse
import ObfuscationMap.Proofs.Sample

/-!
# Chains of two tables

The chain of two tables without repeated targets renames types as the tables do in
turn. It renames a member so unless a stale entry of the second table stands for it:
one with a class in its types that the first table has renamed away. A strict chain
refuses such an entry for a field, but for a method it looks at the declaring class
alone.
-/

namespace ObfuscationMap
namespace Chain

/-- Two tables whose class entries lead from classes to classes, and in which no
target occurs twice within a kind. -/
structure Composable (first second : MappingTable) : Prop where
  firstClasses : first.RenamesClasses
  secondClasses : second.RenamesClasses
  firstTargets : first.DistinctTargets
  secondTargets : second.DistinctTargets
  disjoint : first.DisjointTargets second

section Pair

variable {first second : MappingTable}

theorem renameType_inverse_empty (type : JavaType) :
    MappingTable.empty.inverse.toRenaming.renameType type = type :=
  Renaming.renameType_of_class?_eq_none _ (fun _ => rfl) type

/-- A table with distinct targets is the chain of itself, with its targets claimed. -/
theorem ofLayers_singleton (distinct : first.DistinctTargets) :
    ofLayers [.stored first] = {
      table := first
      claimedClasses := first.classes.values
      claimedFields := first.fields.values
      claimedMethods := first.methods.values } := by
  have classes : own MappingTable.empty.inverse.toRenaming.renameType [] first.classes =
      first.classes := own_eq_self distinct.classes renameType_inverse_empty
  have fields : own MappingTable.empty.inverse.toRenaming.renameField [] first.fields =
      first.fields := by
    apply own_eq_self distinct.fields
    exact Field.followsTypes.mapTypes_still renameType_inverse_empty
  have methods : own MappingTable.empty.inverse.toRenaming.renameMethod [] first.methods =
      first.methods := by
    apply own_eq_self distinct.methods
    exact Method.followsTypes.mapTypes_still renameType_inverse_empty
  rw [ofLayers, List.foldl_cons, List.foldl_nil, extend, ownEntries]
  simp only [empty, Layer.entries]
  rw [classes, fields, methods]
  rfl

theorem chain_singleton (distinct : first.DistinctTargets) : chain [.stored first] = first :=
  congrArg Chain.table (ofLayers_singleton distinct)

theorem chain_pair (distinct : first.DistinctTargets) :
    chain [.stored first, .stored second] = {
      classes := carry second.toRenaming.renameType first.classes
        (own first.inverse.toRenaming.renameType first.classes.values second.classes)
      fields := carry second.toRenaming.renameField first.fields
        (own first.inverse.toRenaming.renameField first.fields.values second.fields)
      methods := carry second.toRenaming.renameMethod first.methods
        (own first.inverse.toRenaming.renameMethod first.methods.values
          second.methods) } := by
  have grown : ofLayers [.stored first, .stored second] =
      (ofLayers [.stored first]).extend (.stored second) :=
    ofLayers_append_singleton [.stored first] (.stored second)
  rw [chain, grown, ofLayers_singleton distinct]
  rfl

/-- The chain of two tables renames a class that is written in the names before the
first as the tables do in turn. -/
theorem renameType_reference_chain_pair
    (tables : Composable first second)
    {name : ClassName}
    (before : first.WrittenBefore (.reference name)) :
    (chain [.stored first, .stored second]).toRenaming.renameType (.reference name) =
      second.toRenaming.renameType (first.toRenaming.renameType (.reference name)) := by
  have leads : ∀ other ∈ second.classes.keys,
      first.inverse.toRenaming.renameType other =
        (first.classes.inverse.get? other).getD (id other) :=
    fun other key =>
      MappingTable.renameType_of_isClass (tables.secondClasses.classSources other key)
  have inRow := getD_carry_own_eq_iff id id first.inverse.toRenaming.renameType
    second.toRenaming.renameType (fun _ => False)
    tables.secondTargets.classes tables.disjoint.classes leads (fun _ _ => rfl)
    rfl before rfl
  rw [chain_pair tables.firstTargets]
  exact inRow.2 fun _ _ _ stale => stale.elim

/-- The chain of two tables renames a type under any dimensions as they do in turn. -/
theorem renameType_chain_pair
    (tables : Composable first second)
    {type : JavaType}
    (before : first.WrittenBefore type) :
    (chain [.stored first, .stored second]).toRenaming.renameType type =
      second.toRenaming.renameType (first.toRenaming.renameType type) := by
  rw [Renaming.renameType_renameType]
  apply JavaType.mapClass_congr
  intro name inside
  rw [MappingTable.WrittenBefore, inside] at before
  exact renameType_reference_chain_pair tables before

/-- The chain of two tables renames the types of a member as they do in turn. -/
theorem mapTypes_chain_pair
    {μ : Type}
    {types : μ -> List JavaType}
    {mapTypes : (JavaType -> JavaType) -> μ -> μ}
    (follows : FollowsTypes types mapTypes)
    (tables : Composable first second)
    {member : μ}
    (before : ∀ type ∈ types member, first.WrittenBefore type) :
    mapTypes (chain [.stored first, .stored second]).toRenaming.renameType member =
      mapTypes second.toRenaming.renameType
        (mapTypes first.toRenaming.renameType member) := by
  rw [follows.mapTypes_mapTypes]
  apply follows.mapTypes_congr
  intro type typeIn
  exact renameType_chain_pair tables (before type typeIn)

/-- Rename a member by its entry, or else by its types. -/
def renameMember
    {μ : Type}
    [DecidableEq μ]
    (mapTypes : (JavaType -> JavaType) -> μ -> μ)
    (entries : OrderedMap μ μ)
    (answers : Renaming)
    (member : μ) : μ :=
  (entries.get? member).getD (mapTypes answers.renameType member)

/-- The chain of two tables renames a member as the tables do in turn, unless a stale
entry of the second table stands for it and leads elsewhere. -/
theorem renameMember_chain_pair_iff
    {μ : Type}
    [DecidableEq μ]
    {types : μ -> List JavaType}
    {mapTypes : (JavaType -> JavaType) -> μ -> μ}
    (follows : FollowsTypes types mapTypes)
    (tables : Composable first second)
    {firstMembers secondMembers : OrderedMap μ μ}
    (distinct : secondMembers.values.Nodup)
    (free : ∀ target ∈ secondMembers.values, target ∉ firstMembers.values)
    {member : μ}
    (before : ∀ type ∈ types member, first.WrittenBefore type)
    (outside : member ∈ firstMembers.keys ∨
      renameMember mapTypes firstMembers first.toRenaming member ∉ firstMembers.values) :
    renameMember mapTypes
        (carry (renameMember mapTypes secondMembers second.toRenaming) firstMembers
          (own (renameMember mapTypes firstMembers.inverse first.inverse.toRenaming)
            firstMembers.values secondMembers))
        (chain [.stored first, .stored second]).toRenaming member =
        renameMember mapTypes secondMembers second.toRenaming
          (renameMember mapTypes firstMembers first.toRenaming member) ↔
      ∀ other target,
        StandsFor firstMembers secondMembers
          (renameMember mapTypes firstMembers.inverse first.inverse.toRenaming)
          member other target ->
        (∃ type ∈ types other, ¬first.WrittenAfter type) ->
        target = renameMember mapTypes secondMembers second.toRenaming
          (renameMember mapTypes firstMembers first.toRenaming member) := by
  have redone : ∀ other, (¬∃ type ∈ types other, ¬first.WrittenAfter type) ->
      mapTypes first.toRenaming.renameType
        (mapTypes first.inverse.toRenaming.renameType other) = other := by
    intro other fresh
    push Not at fresh
    exact MappingTable.mapTypes_mapTypes_inverse follows tables.firstClasses fresh
  have undone := MappingTable.mapTypes_inverse_mapTypes follows tables.firstClasses
    tables.firstTargets.classes before
  have unproduced : member ∈ firstMembers.keys ∨
      mapTypes first.toRenaming.renameType member ∉ firstMembers.values :=
    (firstMembers.mem_keys_or_getD_not_mem_values_iff member _).1 outside
  refine getD_carry_own_eq_iff (mapTypes first.toRenaming.renameType)
    (mapTypes first.inverse.toRenaming.renameType) _ _ _ distinct free (fun _ _ => rfl)
    redone undone unproduced ?_
  rw [mapTypes_chain_pair follows tables before, renameMember]

theorem renameField_chain_pair_iff
    (tables : Composable first second)
    {field : Field}
    (before : ∀ type ∈ field.types, first.WrittenBefore type)
    (outside : field ∈ first.fields.keys ∨
      first.toRenaming.renameField field ∉ first.fields.values) :
    (chain [.stored first, .stored second]).toRenaming.renameField field =
        second.toRenaming.renameField (first.toRenaming.renameField field) ↔
      ∀ other target,
        StandsFor first.fields second.fields first.inverse.toRenaming.renameField
          field other target ->
        (∃ type ∈ other.types, ¬first.WrittenAfter type) ->
        target = second.toRenaming.renameField (first.toRenaming.renameField field) := by
  have members := renameMember_chain_pair_iff Field.followsTypes tables
    tables.secondTargets.fields tables.disjoint.fields before outside
  rw [chain_pair tables.firstTargets] at members ⊢
  exact members

theorem renameMethod_chain_pair_iff
    (tables : Composable first second)
    {method : Method}
    (before : ∀ type ∈ method.types, first.WrittenBefore type)
    (outside : method ∈ first.methods.keys ∨
      first.toRenaming.renameMethod method ∉ first.methods.values) :
    (chain [.stored first, .stored second]).toRenaming.renameMethod method =
        second.toRenaming.renameMethod (first.toRenaming.renameMethod method) ↔
      ∀ other target,
        StandsFor first.methods second.methods first.inverse.toRenaming.renameMethod
          method other target ->
        (∃ type ∈ other.types, ¬first.WrittenAfter type) ->
        target = second.toRenaming.renameMethod
          (first.toRenaming.renameMethod method) := by
  have members := renameMember_chain_pair_iff Method.followsTypes tables
    tables.secondTargets.methods tables.disjoint.methods before outside
  rw [chain_pair tables.firstTargets] at members ⊢
  exact members

/-- Chaining two tables is applying them in turn, if the second has no entry for a
member that is written in names the first has renamed away. -/
theorem rename_chain_pair
    (tables : Composable first second)
    (fieldsAfter : ∀ field ∈ second.fields.keys, ∀ type ∈ field.types,
      first.WrittenAfter type)
    (methodsAfter : ∀ method ∈ second.methods.keys, ∀ type ∈ method.types,
      first.WrittenAfter type) :
    (∀ type, first.WrittenBefore type ->
      (chain [.stored first, .stored second]).toRenaming.renameType type =
        second.toRenaming.renameType (first.toRenaming.renameType type)) ∧
    (∀ field : Field, (∀ type ∈ field.types, first.WrittenBefore type) ->
      (field ∈ first.fields.keys ∨
        first.toRenaming.renameField field ∉ first.fields.values) ->
      (chain [.stored first, .stored second]).toRenaming.renameField field =
        second.toRenaming.renameField (first.toRenaming.renameField field)) ∧
    (∀ method : Method, (∀ type ∈ method.types, first.WrittenBefore type) ->
      (method ∈ first.methods.keys ∨
        first.toRenaming.renameMethod method ∉ first.methods.values) ->
      (chain [.stored first, .stored second]).toRenaming.renameMethod method =
        second.toRenaming.renameMethod (first.toRenaming.renameMethod method)) := by
  refine ⟨fun type before => renameType_chain_pair tables before, ?fields, ?methods⟩
  case fields =>
    intro field before outside
    rw [renameField_chain_pair_iff tables before outside]
    rintro other target stands ⟨type, typeIn, stale⟩
    exact absurd (fieldsAfter other stands.mem_keys type typeIn) stale
  case methods =>
    intro method before outside
    rw [renameMethod_chain_pair_iff tables before outside]
    rintro other target stands ⟨type, typeIn, stale⟩
    exact absurd (methodsAfter other stands.mem_keys type typeIn) stale

end Pair

/-- Two classes and a method of the first. -/
def lowerTable : MappingTable where
  classes := .ofList [(.ofLetter 'a', .ofLetter 'b'), (.ofLetter 'c', .ofLetter 'd')]
  methods := .ofList [
    (.onto (.ofLetter 'a') (.ofLetter 'f') (.ofLetter 'c'),
      .onto (.ofLetter 'b') (.ofLetter 'g') (.ofLetter 'd'))]

/-- Members of the renamed class, written in renamed names. -/
def upperTable : MappingTable where
  classes := .ofList [(.ofLetter 'b', .ofLetter 'e')]
  fields := .ofList [
    (⟨.ofLetter 'b', .ofLetter 'x'⟩, ⟨.ofLetter 'e', .ofLetter 'y'⟩)]
  methods := .ofList [
    (.onto (.ofLetter 'b') (.ofLetter 'm') (.array (.ofLetter 'd')),
      .onto (.ofLetter 'e') (.ofLetter 'n') (.array (.ofLetter 'd')))]

theorem composable_lowerTable_upperTable : Composable lowerTable upperTable where
  firstClasses := by decide
  secondClasses := by decide
  firstTargets := ⟨by decide, by decide, by decide⟩
  secondTargets := ⟨by decide, by decide, by decide⟩
  disjoint := ⟨by decide, by decide, by decide⟩

/-- A method that only the second table names is found in the names before both. -/
theorem rename_chain_pair_upperTable :
    Composable lowerTable upperTable ∧
    (∀ field ∈ upperTable.fields.keys, ∀ type ∈ field.types,
      lowerTable.WrittenAfter type) ∧
    (∀ method ∈ upperTable.methods.keys, ∀ type ∈ method.types,
      lowerTable.WrittenAfter type) ∧
    (chain [.stored lowerTable, .stored upperTable]).toRenaming.renameMethod
        (.onto (.ofLetter 'a') (.ofLetter 'm') (.array (.ofLetter 'c'))) =
      .onto (.ofLetter 'e') (.ofLetter 'n') (.array (.ofLetter 'd')) := by
  have fieldsAfter : ∀ field ∈ upperTable.fields.keys, ∀ type ∈ field.types,
      lowerTable.WrittenAfter type := by decide
  have methodsAfter : ∀ method ∈ upperTable.methods.keys, ∀ type ∈ method.types,
      lowerTable.WrittenAfter type := by decide
  have inRow := rename_chain_pair composable_lowerTable_upperTable fieldsAfter methodsAfter
  refine ⟨composable_lowerTable_upperTable, fieldsAfter, methodsAfter, ?_⟩
  rw [inRow.2.2 _ (by decide) (by decide)]
  decide

end Chain
end ObfuscationMap
