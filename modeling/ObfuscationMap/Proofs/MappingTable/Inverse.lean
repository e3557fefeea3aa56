import ObfuscationMap.MappingTable.Basic
import ObfuscationMap.Proofs.OrderedMap.Lookup
import ObfuscationMap.Proofs.Renaming.Composition
import ObfuscationMap.Proofs.Sample

/-!
# Undoing the renaming of a table

A table with class entries from classes to classes and without repeated targets is
undone by its inverse, on every type that is written in the names before the
table. On types that are written in the names after it, the table redoes what the
inverse undoes. A name that is both a source and a target can be read either way,
so it counts as written in both. A member is undone as well, by its entry or, if it
has none, by the types in it, unless they turn it into the target of another.
-/

namespace ObfuscationMap
namespace MappingTable

/-- Every class entry starts from a class. -/
def ClassSources (table : MappingTable) : Prop :=
  ∀ source ∈ table.classes.keys, source.isClass = true

/-- Every class entry leads from a class to a class. -/
def RenamesClasses (table : MappingTable) : Prop :=
  ∀ entry ∈ table.classes.entries, entry.1.isClass = true ∧ entry.2.isClass = true

/-- Within each kind no target occurs twice. -/
structure DistinctTargets (table : MappingTable) : Prop where
  classes : table.classes.values.Nodup
  fields : table.fields.values.Nodup
  methods : table.methods.values.Nodup

/-- Within each kind no target of one table is a target of another. -/
structure DisjointTargets (left right : MappingTable) : Prop where
  classes : ∀ target ∈ right.classes.values, target ∉ left.classes.values
  fields : ∀ target ∈ right.fields.values, target ∉ left.fields.values
  methods : ∀ target ∈ right.methods.values, target ∉ left.methods.values

/-- A type is written in the names before a table if the class in it is a source of
the table or else no target of it. -/
def WrittenBefore (table : MappingTable) (type : JavaType) : Prop :=
  type.innermost ∈ table.classes.keys ∨ type.innermost ∉ table.classes.values

/-- A type is written in the names after a table if the class in it is a target of
the table or else no source of it. -/
def WrittenAfter (table : MappingTable) (type : JavaType) : Prop :=
  type.innermost ∈ table.classes.values ∨ type.innermost ∉ table.classes.keys

/-- At most one class of a table becomes the class in a type. -/
def HasOneSource (table : MappingTable) (type : JavaType) : Prop :=
  ∀ left ∈ table.classes.entries, ∀ right ∈ table.classes.entries,
    left.2 = type.innermost -> right.2 = type.innermost -> left.1 = right.1

instance (table : MappingTable) : Decidable table.ClassSources :=
  inferInstanceAs (Decidable (∀ _ ∈ _, _))

instance (table : MappingTable) : Decidable table.RenamesClasses :=
  inferInstanceAs (Decidable (∀ _ ∈ _, _))

instance (table : MappingTable) (type : JavaType) : Decidable (table.WrittenBefore type) :=
  inferInstanceAs (Decidable (_ ∨ _))

instance (table : MappingTable) (type : JavaType) : Decidable (table.WrittenAfter type) :=
  inferInstanceAs (Decidable (_ ∨ _))

instance (table : MappingTable) (type : JavaType) : Decidable (table.HasOneSource type) :=
  inferInstanceAs (Decidable (∀ _ ∈ _, ∀ _ ∈ _, _))

section Classes

variable {table : MappingTable}

/-- A table renames a class by its class entries alone. -/
theorem renameType_of_isClass
    {type : JavaType}
    (isClass : type.isClass = true) :
    table.toRenaming.renameType type = table.classes.follow type := by
  obtain ⟨name, rfl⟩ := (JavaType.isClass_iff type).1 isClass
  rfl

theorem RenamesClasses.classSources (renamesClasses : table.RenamesClasses) :
    table.ClassSources :=
  List.forall_mem_map.2 fun entry entryIn => (renamesClasses entry entryIn).1

theorem RenamesClasses.classTargets (renamesClasses : table.RenamesClasses) :
    ∀ target ∈ table.classes.values, target.isClass = true :=
  List.forall_mem_map.2 fun entry entryIn => (renamesClasses entry entryIn).2

theorem RenamesClasses.inverse (renamesClasses : table.RenamesClasses) :
    table.inverse.RenamesClasses :=
  fun _ entryIn => (renamesClasses _ (OrderedMap.swap_mem_of_mem_inverse entryIn)).symm

/-- A table with class entries between classes renames classes to classes. -/
theorem RenamesClasses.isClass_renameType
    (renamesClasses : table.RenamesClasses)
    {type : JavaType}
    (isClass : type.isClass = true) :
    (table.toRenaming.renameType type).isClass = true := by
  obtain ⟨name, rfl⟩ := (JavaType.isClass_iff type).1 isClass
  cases found : table.toRenaming.class? (.reference name) with
  | some target =>
      rw [Renaming.renameType_of_class?_eq_some found]
      exact (renamesClasses _ ((OrderedMap.get?_eq_some_iff _ _ _).1 found)).2
  | none => rwa [Renaming.renameType_of_class?_none found]

/-- The inverse undoes the renaming of a class that is written in the names before
the table. -/
theorem renameType_inverse_reference
    (renamesClasses : table.RenamesClasses)
    (distinct : table.classes.values.Nodup)
    {name : ClassName}
    (before : table.WrittenBefore (.reference name)) :
    table.inverse.toRenaming.renameType (table.toRenaming.renameType (.reference name)) =
      .reference name := by
  have isClass : (JavaType.reference name).isClass = true := rfl
  rw [renameType_of_isClass (renamesClasses.isClass_renameType isClass),
    renameType_of_isClass isClass]
  exact OrderedMap.follow_inverse_follow distinct before

/-- A table redoes what its inverse undoes for a class that is written in the names
after the table. -/
theorem renameType_reference_inverse
    (renamesClasses : table.RenamesClasses)
    {name : ClassName}
    (after : table.WrittenAfter (.reference name)) :
    table.toRenaming.renameType (table.inverse.toRenaming.renameType (.reference name)) =
      .reference name := by
  have isClass : (JavaType.reference name).isClass = true := rfl
  rw [renameType_of_isClass (renamesClasses.inverse.isClass_renameType isClass),
    renameType_of_isClass isClass]
  exact OrderedMap.follow_follow_inverse after

theorem renameType_inverse_renameType
    (renamesClasses : table.RenamesClasses)
    (distinct : table.classes.values.Nodup)
    {type : JavaType}
    (before : table.WrittenBefore type) :
    table.inverse.toRenaming.renameType (table.toRenaming.renameType type) = type := by
  rw [Renaming.renameType_renameType]
  refine (JavaType.mapClass_congr fun name inside => ?_).trans type.mapClass_reference
  rw [WrittenBefore, inside] at before
  exact renameType_inverse_reference renamesClasses distinct before

theorem renameType_renameType_inverse
    (renamesClasses : table.RenamesClasses)
    {type : JavaType}
    (after : table.WrittenAfter type) :
    table.toRenaming.renameType (table.inverse.toRenaming.renameType type) = type := by
  rw [Renaming.renameType_renameType]
  refine (JavaType.mapClass_congr fun name inside => ?_).trans type.mapClass_reference
  rw [WrittenAfter, inside] at after
  exact renameType_reference_inverse renamesClasses after

/-- Inverting tables that answer alike leads a type back to one type, if it has one
source. -/
theorem renameType_inverse_congr
    {left right : MappingTable}
    (same : ∀ source, left.classes.get? source = right.classes.get? source)
    {type : JavaType}
    (oneSource : left.HasOneSource type) :
    left.inverse.toRenaming.renameType type = right.inverse.toRenaming.renameType type := by
  apply JavaType.mapClass_congr
  intro name inside
  have led : left.classes.inverse.get? (.reference name) =
      right.classes.inverse.get? (.reference name) := by
    apply OrderedMap.get?_inverse_congr same
    intro source other found otherFound
    rw [OrderedMap.get?_eq_some_iff] at found otherFound
    exact oneSource _ found _ otherFound inside.symm inside.symm
  exact congrArg (fun found => Option.getD found (.reference name)) led

end Classes

section Members

variable
  {table : MappingTable}
  {μ : Type}
  {types : μ -> List JavaType}
  {mapTypes : (JavaType -> JavaType) -> μ -> μ}

/-- The inverse undoes the renaming of the types of a member. -/
theorem mapTypes_inverse_mapTypes
    (follows : FollowsTypes types mapTypes)
    (renamesClasses : table.RenamesClasses)
    (distinct : table.classes.values.Nodup)
    {member : μ}
    (before : ∀ type ∈ types member, table.WrittenBefore type) :
    mapTypes table.inverse.toRenaming.renameType
      (mapTypes table.toRenaming.renameType member) = member := by
  apply follows.mapTypes_undo
  intro type typeIn
  exact renameType_inverse_renameType renamesClasses distinct (before type typeIn)

/-- A table redoes what its inverse undoes for the types of a member. -/
theorem mapTypes_mapTypes_inverse
    (follows : FollowsTypes types mapTypes)
    (renamesClasses : table.RenamesClasses)
    {member : μ}
    (after : ∀ type ∈ types member, table.WrittenAfter type) :
    mapTypes table.toRenaming.renameType
      (mapTypes table.inverse.toRenaming.renameType member) = member := by
  apply follows.mapTypes_undo
  intro type typeIn
  exact renameType_renameType_inverse renamesClasses (after type typeIn)

end Members

section Lookups

variable {table : MappingTable}

/-- The inverse of a table without repeated targets undoes the renaming of all types and
members in the names before it, but for members without an entry that come out as a
target. -/
theorem rename_inverse_rename
    (renamesClasses : table.RenamesClasses)
    (distinct : table.DistinctTargets) :
    (∀ type, table.WrittenBefore type ->
      table.inverse.toRenaming.renameType (table.toRenaming.renameType type) = type) ∧
    (∀ field : Field, (∀ type ∈ field.types, table.WrittenBefore type) ->
      (field ∈ table.fields.keys ∨
        table.toRenaming.renameField field ∉ table.fields.values) ->
      table.inverse.toRenaming.renameField (table.toRenaming.renameField field) = field) ∧
    (∀ method : Method, (∀ type ∈ method.types, table.WrittenBefore type) ->
      (method ∈ table.methods.keys ∨
        table.toRenaming.renameMethod method ∉ table.methods.values) ->
      table.inverse.toRenaming.renameMethod (table.toRenaming.renameMethod method) =
        method) := by
  refine ⟨?types, ?fields, ?methods⟩
  case types =>
    exact fun type before =>
      renameType_inverse_renameType renamesClasses distinct.classes before
  case fields =>
    intro field before outside
    have undone := mapTypes_inverse_mapTypes Field.followsTypes renamesClasses
      distinct.classes before
    exact OrderedMap.getD_get?_inverse distinct.fields undone
      ((OrderedMap.mem_keys_or_getD_not_mem_values_iff _ _ _).1 outside)
  case methods =>
    intro method before outside
    have undone := mapTypes_inverse_mapTypes Method.followsTypes renamesClasses
      distinct.classes before
    exact OrderedMap.getD_get?_inverse distinct.methods undone
      ((OrderedMap.mem_keys_or_getD_not_mem_values_iff _ _ _).1 outside)

/-- Two classes that exchange their names, a third one, and a field and a method of them. -/
def exchangingTable : MappingTable where
  classes := .ofList [
    (.ofLetter 'a', .ofLetter 'b'), (.ofLetter 'b', .ofLetter 'a'),
    (.ofLetter 'c', .ofLetter 'd')]
  fields := .ofList [
    (⟨.ofLetter 'b', .ofLetter 'x'⟩, ⟨.ofLetter 'a', .ofLetter 'y'⟩)]
  methods := .ofList [
    (.onto (.ofLetter 'a') (.ofLetter 'f') (.array (.ofLetter 'c')),
      .onto (.ofLetter 'b') (.ofLetter 'g') (.array (.ofLetter 'd')))]

/-- An exchanged name under dimensions, a field without an entry, and a method with one are
restored. -/
theorem rename_inverse_rename_exchangingTable :
    exchangingTable.RenamesClasses ∧ exchangingTable.DistinctTargets ∧
    exchangingTable.WrittenBefore (.array (.array (.ofLetter 'b'))) ∧
    exchangingTable.inverse.toRenaming.renameType
        (exchangingTable.toRenaming.renameType (.array (.array (.ofLetter 'b')))) =
      .array (.array (.ofLetter 'b')) ∧
    exchangingTable.toRenaming.renameField ⟨.ofLetter 'c', .ofLetter 'x'⟩ ∉
      exchangingTable.fields.values ∧
    exchangingTable.inverse.toRenaming.renameField
        (exchangingTable.toRenaming.renameField ⟨.ofLetter 'c', .ofLetter 'x'⟩) =
      ⟨.ofLetter 'c', .ofLetter 'x'⟩ ∧
    .onto (.ofLetter 'a') (.ofLetter 'f') (.array (.ofLetter 'c')) ∈
      exchangingTable.methods.keys ∧
    exchangingTable.inverse.toRenaming.renameMethod
        (exchangingTable.toRenaming.renameMethod
          (.onto (.ofLetter 'a') (.ofLetter 'f') (.array (.ofLetter 'c')))) =
      .onto (.ofLetter 'a') (.ofLetter 'f') (.array (.ofLetter 'c')) := by
  have renamesClasses : exchangingTable.RenamesClasses := by decide
  have distinct : exchangingTable.DistinctTargets := ⟨by decide, by decide, by decide⟩
  obtain ⟨types, fields, methods⟩ := rename_inverse_rename renamesClasses distinct
  have typeBefore : exchangingTable.WrittenBefore (.array (.array (.ofLetter 'b'))) := by
    decide
  have fieldOutside : exchangingTable.toRenaming.renameField ⟨.ofLetter 'c', .ofLetter 'x'⟩ ∉
      exchangingTable.fields.values := by decide
  have methodKey : .onto (.ofLetter 'a') (.ofLetter 'f') (.array (.ofLetter 'c')) ∈
      exchangingTable.methods.keys := by decide
  exact ⟨renamesClasses, distinct, typeBefore, types _ typeBefore, fieldOutside,
    fields _ (by decide) (.inr fieldOutside), methodKey,
    methods _ (by decide) (.inl methodKey)⟩

end Lookups

end MappingTable
end ObfuscationMap
