import ObfuscationMap.Proofs.Chain.TwoTables
import ObfuscationMap.Proofs.TextFormat.CsrgRoundTrip

/-!
# Members that follow the classes of a chain

If the members of two tables follow their classes, so do those of the chain of the tables,
as long as the first starts from members in the names before it and the second from members
in the names after the first. A member that the chain carries on gets the types that the
two tables give it in turn, and so does one that the second table brings, because leading
it back and on again restores its types. The compact text of such a chain therefore loses
nothing of it.
-/

namespace ObfuscationMap

/-- Every renamed member has the types that a renaming makes of those of its source. -/
def FollowTypes
    {μ : Type}
    (types : μ -> List JavaType)
    (answers : Renaming)
    (members : OrderedMap μ μ) : Prop :=
  ∀ entry ∈ members.entries, types entry.2 = (types entry.1).map answers.renameType

theorem Field.types_mapTypes (rename : JavaType -> JavaType) (field : Field) :
    (field.mapTypes rename).types = field.types.map rename := rfl

theorem Method.types_mapTypes (rename : JavaType -> JavaType) (method : Method) :
    (method.mapTypes rename).types = method.types.map rename := by
  simp [types, mapTypes, Signature.types, Signature.mapTypes]

theorem Field.types_eq_map_iff (rename : JavaType -> JavaType) (source target : Field) :
    target.types = source.types.map rename ↔ target.owner = rename source.owner := by
  simp [types]

theorem Method.types_eq_map_iff (rename : JavaType -> JavaType) (source target : Method) :
    target.types = source.types.map rename ↔
      target.owner = rename source.owner ∧
        target.signature = source.signature.mapTypes rename := by
  obtain ⟨owner, name, ⟨parameters, result⟩⟩ := target
  simp [types, Signature.types, Signature.mapTypes, List.append_singleton_inj]

namespace MappingTable

theorem followsClasses_iff (table : MappingTable) :
    table.FollowsClasses ↔
      FollowTypes Field.types table.toRenaming table.fields ∧
        FollowTypes Method.types table.toRenaming table.methods := by
  simp only [FollowTypes, Field.types_eq_map_iff, Method.types_eq_map_iff]
  exact ⟨fun follows => ⟨follows.fields, follows.methods⟩,
    fun follows => ⟨follows.1, follows.2⟩⟩

/-- What the inverse of a table leads a type back to is written in the names before it. -/
theorem writtenBefore_renameType_inverse
    {table : MappingTable}
    (renamesClasses : table.RenamesClasses)
    (type : JavaType) :
    table.WrittenBefore (table.inverse.toRenaming.renameType type) := by
  induction type with
  | reference name =>
      have isClass : (JavaType.reference name).isClass = true := rfl
      obtain ⟨old, same⟩ := (JavaType.isClass_iff _).1
        (renamesClasses.inverse.isClass_renameType isClass)
      have led : table.classes.inverse.follow (.reference name) = .reference old :=
        (renameType_of_isClass isClass).symm.trans same
      rw [WrittenBefore, same]
      rcases table.classes.follow_inverse (.reference name) with key | ⟨unproduced, stays⟩
      · rw [led] at key
        exact .inl key
      · rw [led] at stays
        exact .inr (stays ▸ unproduced)
  | primitive kind =>
      right
      intro produced
      exact absurd (renamesClasses.classTargets _ produced) Bool.false_ne_true
  | array element step => exact step

end MappingTable

namespace Chain

section Members

variable
  {first second : MappingTable}
  {μ : Type}
  {types : μ -> List JavaType}
  {mapTypes : (JavaType -> JavaType) -> μ -> μ}
  {firstMembers secondMembers : OrderedMap μ μ}

/-- Types that two tables give in turn are those that their chain gives. -/
theorem types_eq_map_chain_pair
    (tables : Composable first second)
    {source middle target : μ}
    (before : ∀ type ∈ types source, first.WrittenBefore type)
    (low : types middle = (types source).map first.toRenaming.renameType)
    (high : types target = (types middle).map second.toRenaming.renameType) :
    types target = (types source).map
      (chain [.stored first, .stored second]).toRenaming.renameType := by
  rw [high, low, List.map_map]
  apply List.map_congr_left
  intro type typeIn
  exact (renameType_chain_pair tables (before type typeIn)).symm

variable [DecidableEq μ]

/-- A member gets the types that the classes make of its own, with or without an entry. -/
theorem types_renameMember
    (listed : ∀ rename member, types (mapTypes rename member) = (types member).map rename)
    {answers : Renaming}
    (follow : FollowTypes types answers firstMembers)
    (member : μ) :
    types (renameMember mapTypes firstMembers answers member) =
      (types member).map answers.renameType := by
  rw [renameMember]
  cases found : firstMembers.get? member with
  | some target => exact follow _ ((OrderedMap.get?_eq_some_iff _ _ _).1 found)
  | none => exact listed answers.renameType member

/-- A member in the names after a table is led back to one in the names before it, and the
table gives that one its types. -/
theorem types_leadBack
    (listed : ∀ rename member, types (mapTypes rename member) = (types member).map rename)
    (renamesClasses : first.RenamesClasses)
    (follow : FollowTypes types first.toRenaming firstMembers)
    (before : ∀ source ∈ firstMembers.keys, ∀ type ∈ types source, first.WrittenBefore type)
    {member : μ}
    (after : ∀ type ∈ types member, first.WrittenAfter type) :
    (∀ type ∈ types
        (renameMember mapTypes firstMembers.inverse first.inverse.toRenaming member),
      first.WrittenBefore type) ∧
    types member = (types
      (renameMember mapTypes firstMembers.inverse first.inverse.toRenaming member)).map
        first.toRenaming.renameType := by
  rw [renameMember]
  cases led : firstMembers.inverse.get? member with
  | some source =>
      have found := OrderedMap.get?_of_get?_inverse led
      have key := OrderedMap.mem_keys_of_get?_eq_some found
      exact ⟨before source key, follow _ ((OrderedMap.get?_eq_some_iff _ _ _).1 found)⟩
  | none =>
      rw [Option.getD_none, listed]
      constructor
      · exact List.forall_mem_map.2 fun type _ =>
          MappingTable.writtenBefore_renameType_inverse renamesClasses type
      · rw [List.map_map]
        refine (List.map_id _).symm.trans (List.map_congr_left fun type typeIn => ?_)
        exact (MappingTable.renameType_renameType_inverse renamesClasses
          (after type typeIn)).symm

/-- The members of the chain of two tables follow its classes, if those of the tables follow
theirs and are in the names before and after the first table. -/
theorem followTypes_chain_pair
    (listed : ∀ rename member, types (mapTypes rename member) = (types member).map rename)
    (tables : Composable first second)
    (firstFollow : FollowTypes types first.toRenaming firstMembers)
    (secondFollow : FollowTypes types second.toRenaming secondMembers)
    (before : ∀ source ∈ firstMembers.keys, ∀ type ∈ types source, first.WrittenBefore type)
    (after : ∀ source ∈ secondMembers.keys, ∀ type ∈ types source, first.WrittenAfter type) :
    FollowTypes types (chain [.stored first, .stored second]).toRenaming
      (carry (renameMember mapTypes secondMembers second.toRenaming) firstMembers
        (own (renameMember mapTypes firstMembers.inverse first.inverse.toRenaming)
          firstMembers.values secondMembers)) := by
  apply forall_entries_carry
  · intro entry entryIn
    obtain ⟨ledBefore, low⟩ := types_leadBack listed tables.firstClasses firstFollow before
      (after entry.1 (List.mem_map_of_mem entryIn))
    exact types_eq_map_chain_pair tables ledBefore low (secondFollow entry entryIn)
  · intro entry entryIn
    exact types_eq_map_chain_pair tables (before entry.1 (List.mem_map_of_mem entryIn))
      (firstFollow entry entryIn) (types_renameMember listed secondFollow entry.2)

end Members

section Tables

variable {first second : MappingTable}

/-- The members of the chain of two tables follow its classes if those of the tables follow
theirs, those of the first start in the names before it, and those of the second in the
names after the first. If all its names can be read back, so can the compact text of the
chain, and nothing of the chain is lost. -/
theorem followsClasses_chain_pair
    (tables : Composable first second)
    (firstFollows : first.FollowsClasses)
    (secondFollows : second.FollowsClasses)
    (fieldsBefore : ∀ field ∈ first.fields.keys, ∀ type ∈ field.types,
      first.WrittenBefore type)
    (methodsBefore : ∀ method ∈ first.methods.keys, ∀ type ∈ method.types,
      first.WrittenBefore type)
    (fieldsAfter : ∀ field ∈ second.fields.keys, ∀ type ∈ field.types,
      first.WrittenAfter type)
    (methodsAfter : ∀ method ∈ second.methods.keys, ∀ type ∈ method.types,
      first.WrittenAfter type) :
    (chain [.stored first, .stored second]).FollowsClasses ∧
    ((chain [.stored first, .stored second]).IsCompactlyWritable ->
      ∃ result,
        TextFormat.csrg.readText
            (TextFormat.csrg.writeText (chain [.stored first, .stored second])) =
          .ok result ∧
        result.sameEntries (chain [.stored first, .stored second]) = true) := by
  rw [MappingTable.followsClasses_iff] at firstFollows secondFollows
  have fields := followTypes_chain_pair Field.types_mapTypes tables firstFollows.1
    secondFollows.1 fieldsBefore fieldsAfter
  have methods := followTypes_chain_pair Method.types_mapTypes tables firstFollows.2
    secondFollows.2 methodsBefore methodsAfter
  have follows : (chain [.stored first, .stored second]).FollowsClasses := by
    rw [MappingTable.followsClasses_iff]
    rw [chain_pair tables.firstTargets] at fields methods ⊢
    exact ⟨fields, methods⟩
  refine ⟨follows, fun writable => ?_⟩
  obtain ⟨result, read, same⟩ := TextFormat.exists_csrg_readText_writeText writable
  have still := (MappingTable.sameEntries_following_self_iff _).2 follows
  exact ⟨result, read, MappingTable.sameEntries_trans same still⟩

/-- The chain has a method that the first table carries on, and a field and a method that the
second brings. -/
theorem followsClasses_chain_pair_upperTable :
    Composable lowerTable upperTable ∧
    lowerTable.FollowsClasses ∧ upperTable.FollowsClasses ∧
    (∀ field ∈ lowerTable.fields.keys, ∀ type ∈ field.types,
      lowerTable.WrittenBefore type) ∧
    (∀ method ∈ lowerTable.methods.keys, ∀ type ∈ method.types,
      lowerTable.WrittenBefore type) ∧
    (∀ field ∈ upperTable.fields.keys, ∀ type ∈ field.types,
      lowerTable.WrittenAfter type) ∧
    (∀ method ∈ upperTable.methods.keys, ∀ type ∈ method.types,
      lowerTable.WrittenAfter type) ∧
    (chain [.stored lowerTable, .stored upperTable]).FollowsClasses ∧
    (chain [.stored lowerTable, .stored upperTable]).methods.size = 2 ∧
    ∃ result,
      TextFormat.csrg.readText
          (TextFormat.csrg.writeText (chain [.stored lowerTable, .stored upperTable])) =
        .ok result ∧
      result.sameEntries (chain [.stored lowerTable, .stored upperTable]) = true := by
  have lowerFollows : lowerTable.FollowsClasses := ⟨by decide, by decide⟩
  have upperFollows : upperTable.FollowsClasses := ⟨by decide, by decide⟩
  have fieldsBefore : ∀ field ∈ lowerTable.fields.keys, ∀ type ∈ field.types,
      lowerTable.WrittenBefore type := by decide
  have methodsBefore : ∀ method ∈ lowerTable.methods.keys, ∀ type ∈ method.types,
      lowerTable.WrittenBefore type := by decide
  have fieldsAfter : ∀ field ∈ upperTable.fields.keys, ∀ type ∈ field.types,
      lowerTable.WrittenAfter type := by decide
  have methodsAfter : ∀ method ∈ upperTable.methods.keys, ∀ type ∈ method.types,
      lowerTable.WrittenAfter type := by decide
  have writable : (chain [.stored lowerTable, .stored upperTable]).IsCompactlyWritable :=
    ⟨by decide, by decide, by decide, by decide⟩
  obtain ⟨follows, again⟩ := followsClasses_chain_pair composable_lowerTable_upperTable
    lowerFollows upperFollows fieldsBefore methodsBefore fieldsAfter methodsAfter
  exact ⟨composable_lowerTable_upperTable, lowerFollows, upperFollows, fieldsBefore,
    methodsBefore, fieldsAfter, methodsAfter, follows, by decide, again writable⟩

end Tables

end Chain
end ObfuscationMap
