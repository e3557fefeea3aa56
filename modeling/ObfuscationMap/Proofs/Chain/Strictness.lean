import ObfuscationMap.Proofs.Chain.Refusal
import ObfuscationMap.Proofs.Chain.TwoTables

/-!
# What a strict chain lets through

A strict chain that succeeds is the chain, and its later layers rename nothing
unknown. For a field, whose one type is its declaring one, this keeps stale names
out. A method is known with its declaring class, so a stale class in its signature
goes through; leading the method back leaves this class alone, and the entry stands
for a method that the tables in turn rename differently.
-/

namespace ObfuscationMap
namespace Chain

theorem eq_chain_of_strictChain
    {layers : List Layer}
    {table : MappingTable}
    (accepted : strictChain layers = .ok table) :
    table = chain layers :=
  (known_of_strictChain accepted).2

theorem hasClass_of_knowsField
    {inverse : Renaming}
    {field : Field}
    (known : knowsField inverse field = true)
    (unproduced : inverse.field? field = none) :
    inverse.hasClass field.owner = true := by
  rwa [knowsField, Renaming.hasField, unproduced, Option.isSome_none, Bool.false_or] at known

theorem hasClass_of_knowsMethod
    {inverse : Renaming}
    {method : Method}
    (known : knowsMethod inverse method = true)
    (unproduced : inverse.method? method = none) :
    inverse.hasClass method.owner = true := by
  rwa [knowsMethod, Renaming.hasMethod, unproduced, Option.isSome_none, Bool.false_or]
    at known

section Pair

variable {first second chained : MappingTable}

/-- The second of two tables in a strict chain renames only members that the first
knows. -/
theorem knows_of_strictChain_pair
    (distinct : first.DistinctTargets)
    (accepted : strictChain [.stored first, .stored second] = .ok chained) :
    (∀ field ∈ second.fields.keys, knowsField first.inverse.toRenaming field = true) ∧
    (∀ method ∈ second.methods.keys,
      knowsMethod first.inverse.toRenaming method = true) := by
  have known : (chain [.stored first]).firstUnknown? second = none :=
    (known_of_strictChain accepted).1 1
  rw [chain_singleton distinct] at known
  obtain ⟨-, fields, methods⟩ := knows_of_firstUnknown?_eq_none known
  constructor
  · intro field fieldIn
    rw [knowsField_inverse]
    exact decide_eq_true (fields field fieldIn)
  · intro method methodIn
    rw [knowsMethod_inverse]
    exact decide_eq_true (methods method methodIn)

theorem writtenAfter_of_hasClass
    {type : JavaType}
    (produced : first.inverse.toRenaming.hasClass type = true) :
    first.WrittenAfter type := by
  rw [Renaming.hasClass, Option.isSome_iff_exists] at produced
  obtain ⟨source, led⟩ := produced
  left
  rw [OrderedMap.mem_values_iff]
  exact ⟨source, OrderedMap.get?_of_get?_inverse led⟩

/-- A strict chain of two tables renames fields as the tables do in turn. It renames a
method so exactly if no entry of the second table with a stale class in its signature
stands for the method and leads elsewhere. -/
theorem rename_strictChain_pair
    (tables : Composable first second)
    (accepted : strictChain [.stored first, .stored second] = .ok chained) :
    (∀ field : Field, (∀ type ∈ field.types, first.WrittenBefore type) ->
      (field ∈ first.fields.keys ∨
        first.toRenaming.renameField field ∉ first.fields.values) ->
      chained.toRenaming.renameField field =
        second.toRenaming.renameField (first.toRenaming.renameField field)) ∧
    (∀ method : Method, (∀ type ∈ method.types, first.WrittenBefore type) ->
      (method ∈ first.methods.keys ∨
        first.toRenaming.renameMethod method ∉ first.methods.values) ->
      (chained.toRenaming.renameMethod method =
          second.toRenaming.renameMethod (first.toRenaming.renameMethod method) ↔
        ∀ other target,
          StandsFor first.methods second.methods first.inverse.toRenaming.renameMethod
            method other target ->
          (∃ type ∈ other.signature.types, ¬first.WrittenAfter type) ->
          target = second.toRenaming.renameMethod
            (first.toRenaming.renameMethod method))) := by
  obtain rfl := eq_chain_of_strictChain accepted
  have known := knows_of_strictChain_pair tables.firstTargets accepted
  constructor
  · intro field before outside
    rw [renameField_chain_pair_iff tables before outside]
    rintro other target stands ⟨type, typeIn, stale⟩
    have unproduced := (stands.unproduced fun _ _ => rfl).1
    have owner := hasClass_of_knowsField (known.1 other stands.mem_keys) unproduced
    obtain rfl := List.mem_singleton.1 typeIn
    exact absurd (writtenAfter_of_hasClass owner) stale
  · intro method before outside
    rw [renameMethod_chain_pair_iff tables before outside]
    constructor
    · rintro harmless other target stands ⟨type, typeIn, stale⟩
      exact harmless other target stands ⟨type, List.mem_cons_of_mem _ typeIn, stale⟩
    · rintro harmless other target stands ⟨type, typeIn, stale⟩
      have unproduced := (stands.unproduced fun _ _ => rfl).1
      have owner := hasClass_of_knowsMethod (known.2 other stands.mem_keys) unproduced
      rcases List.mem_cons.1 typeIn with rfl | inSignature
      · exact absurd (writtenAfter_of_hasClass owner) stale
      · exact harmless other target stands ⟨type, inSignature, stale⟩

end Pair

/-- A method of a renamed class with a parameter that is still written in the names
before the lower table. -/
def staleTable : MappingTable where
  methods := .ofList [
    (.onto (.ofLetter 'b') (.ofLetter 'k') (.ofLetter 'c'),
      .onto (.ofLetter 'b') (.ofLetter 'h') (.ofLetter 'd'))]

theorem composable_lowerTable_staleTable : Composable lowerTable staleTable where
  firstClasses := by decide
  secondClasses := by decide
  firstTargets := ⟨by decide, by decide, by decide⟩
  secondTargets := ⟨by decide, by decide, by decide⟩
  disjoint := ⟨by decide, by decide, by decide⟩

theorem strictChain_lowerTable_staleTable :
    strictChain [.stored lowerTable, .stored staleTable] =
      .ok (chain [.stored lowerTable, .stored staleTable]) := rfl

/-- The stale entry is let through and stands for a method in the names before both
tables, which the tables in turn leave with its own name. -/
theorem renameMethod_strictChain_staleTable_ne :
    ∃ chained, ∃ method : Method,
      Composable lowerTable staleTable ∧
      strictChain [.stored lowerTable, .stored staleTable] = .ok chained ∧
      method.owner.innermost ∈ lowerTable.classes.keys ∧
      (∀ type ∈ method.types, lowerTable.WrittenBefore type) ∧
      lowerTable.toRenaming.renameMethod method ∉ lowerTable.methods.values ∧
      chained.toRenaming.renameMethod method ≠
        staleTable.toRenaming.renameMethod (lowerTable.toRenaming.renameMethod method) :=
  ⟨_, .onto (.ofLetter 'a') (.ofLetter 'k') (.ofLetter 'c'),
    composable_lowerTable_staleTable, strictChain_lowerTable_staleTable,
    by decide, by decide, by decide, by decide⟩

/-- A method with an entry of the lower table is renamed as the tables do in turn; for
the method above the condition fails. -/
theorem rename_strictChain_pair_staleTable :
    Composable lowerTable staleTable ∧
    strictChain [.stored lowerTable, .stored staleTable] =
      .ok (chain [.stored lowerTable, .stored staleTable]) ∧
    (chain [.stored lowerTable, .stored staleTable]).toRenaming.renameMethod
        (.onto (.ofLetter 'a') (.ofLetter 'f') (.ofLetter 'c')) =
      .onto (.ofLetter 'b') (.ofLetter 'g') (.ofLetter 'd') ∧
    ¬∀ other target,
      StandsFor lowerTable.methods staleTable.methods
        lowerTable.inverse.toRenaming.renameMethod
        (.onto (.ofLetter 'a') (.ofLetter 'k') (.ofLetter 'c')) other target ->
      (∃ type ∈ other.signature.types, ¬lowerTable.WrittenAfter type) ->
      target = .onto (.ofLetter 'b') (.ofLetter 'k') (.ofLetter 'd') := by
  have inRow := rename_strictChain_pair composable_lowerTable_staleTable
    strictChain_lowerTable_staleTable
  refine ⟨composable_lowerTable_staleTable, strictChain_lowerTable_staleTable, ?own, ?stale⟩
  case own =>
    have key : Method.onto (.ofLetter 'a') (.ofLetter 'f') (.ofLetter 'c') ∈
        lowerTable.methods.keys := by decide
    have turned := (inRow.2 _ (by decide) (.inl key)).2
      fun other target stands _ => absurd key stands.newSource
    exact turned.trans (by decide)
  case stale =>
    have agree := inRow.2 (.onto (.ofLetter 'a') (.ofLetter 'k') (.ofLetter 'c'))
      (by decide) (.inr (by decide))
    exact agree.not.1 (by decide)

end Chain
end ObfuscationMap
