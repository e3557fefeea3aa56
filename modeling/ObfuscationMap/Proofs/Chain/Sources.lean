import ObfuscationMap.Proofs.Chain.ClosedForm
import ObfuscationMap.Proofs.Chain.Refusal
import ObfuscationMap.Proofs.Chain.TwoTables

/-!
# Where a strict chain starts

A strict chain starts from no class that its first layer does not start from. Its members
start in the first layer too or are declared by such a class, or else by a primitive type
that some layer has made the target of a class, since primitive types are not led back.
-/

namespace ObfuscationMap
namespace Chain

section Step

variable {table : MappingTable}

/-- A class that a table knows is led back to a source of the table. -/
theorem leadBack_mem_keys
    {source : JavaType}
    (isClass : source.isClass = true)
    (known : table.KnowsClass source) :
    table.inverse.toRenaming.renameType source ∈ table.classes.keys := by
  rw [MappingTable.renameType_of_isClass isClass]
  exact (table.classes.follow_inverse source).resolve_right fun unproduced => unproduced.1 known

/-- A type whose innermost class a table knows is led back to a type of a source, unless
this innermost type is primitive. -/
theorem innermost_leadBack
    (classSources : table.ClassSources)
    {type : JavaType}
    (known : table.KnowsClass type.innermost) :
    (table.inverse.toRenaming.renameType type).innermost ∈ table.classes.keys ∨
      ∃ kind, type.innermost = .primitive kind ∧
        (table.inverse.toRenaming.renameType type).innermost = .primitive kind := by
  induction type with
  | reference name =>
      have isClass : (JavaType.reference name).isClass = true := rfl
      have key := leadBack_mem_keys isClass known
      -- A source is a class, so it is its own innermost type.
      obtain ⟨led, same⟩ := (JavaType.isClass_iff _).1 (classSources _ key)
      rw [same] at key ⊢
      exact .inl key
  | primitive kind => exact .inr ⟨kind, rfl, rfl⟩
  | array element step => exact step known

/-- What a table knows of the members of a layer is led back to its own members or to
members of its sources, or stays with a primitive type that the table has as a target. -/
theorem leadBack_member
    {α : Type}
    [DecidableEq α]
    {owner : α -> JavaType}
    {mapTypes : (JavaType -> JavaType) -> α -> α}
    (owner_mapTypes : ∀ rename member, owner (mapTypes rename member) = rename (owner member))
    (classSources : table.ClassSources)
    {members : OrderedMap α α}
    {member : α}
    (known : member ∈ members.values ∨ table.KnowsClass (owner member).innermost)
    {source : α}
    (led : renameMember mapTypes members.inverse table.inverse.toRenaming member = source) :
    source ∈ members.keys ∨ (owner source).innermost ∈ table.classes.keys ∨
      ∃ kind, (owner source).innermost = .primitive kind ∧
        table.KnowsClass (.primitive kind) := by
  subst led
  rw [renameMember]
  cases produced : members.inverse.get? member with
  | some old => exact .inl (OrderedMap.mem_keys_of_get?_inverse produced)
  | none =>
      have unproduced := (OrderedMap.get?_inverse_eq_none_iff _ _).1 produced
      have ownerKnown := known.resolve_left unproduced
      rw [Option.getD_none, owner_mapTypes]
      rcases innermost_leadBack classSources ownerKnown with key | ⟨kind, inside, stays⟩
      · exact .inr (.inl key)
      · rw [inside] at ownerKnown
        exact .inr (.inr ⟨kind, stays, ownerKnown⟩)

end Step

/-- An owner starts in the first layer if its class does, or else it is a primitive type
that some layers before the last have as the target of a class. -/
def OwnerStarts (layers : List Layer) (owner : JavaType) : Prop :=
  owner.innermost ∈ (chain (layers.take 1)).classes.keys ∨
    ∃ kind count, owner.innermost = .primitive kind ∧ 1 ≤ count ∧ count < layers.length ∧
      (chain (layers.take count)).KnowsClass (.primitive kind)

/-- A chain starts from the classes that its first layer starts from, and from members of
the first layer or with an owner that starts there. -/
structure StartsWithin (layers : List Layer) : Prop where
  classes : ∀ source, source ∈ (chain layers).classes.keys ↔
    source ∈ (chain (layers.take 1)).classes.keys
  fields : ∀ source ∈ (chain layers).fields.keys,
    source ∈ (chain (layers.take 1)).fields.keys ∨ OwnerStarts layers source.owner
  methods : ∀ source ∈ (chain layers).methods.keys,
    source ∈ (chain (layers.take 1)).methods.keys ∨ OwnerStarts layers source.owner

section Run

theorem chain_append_singleton (before : List Layer) (layer : Layer) :
    chain (before ++ [layer]) = ((ofLayers before).extend layer).table := by
  rw [chain, ofLayers_append_singleton]

theorem classSources_chain_singleton
    {layer : Layer}
    (classSources : layer.entries.ClassSources) :
    (chain [layer]).ClassSources := by
  intro source key
  rcases mem_keys_carry key with absent | ⟨other, otherKey, rfl⟩
  · exact absurd absent List.not_mem_nil
  · have isClass := classSources other otherKey
    rwa [← renameType_inverse_empty other] at isClass

variable {before : List Layer} {layer : Layer}

theorem take_one_append (nonempty : before ≠ []) :
    (before ++ [layer]).take 1 = before.take 1 :=
  List.take_append_of_le_length (List.length_pos_iff.2 nonempty)

theorem OwnerStarts.append
    (nonempty : before ≠ [])
    {owner : JavaType}
    (starts : OwnerStarts before owner) :
    OwnerStarts (before ++ [layer]) owner := by
  rcases starts with key | ⟨kind, count, inside, positive, shorter, known⟩
  · left
    rwa [take_one_append nonempty]
  · right
    refine ⟨kind, count, inside, positive, ?_, ?_⟩
    · rw [List.length_append]
      exact Nat.lt_add_right 1 shorter
    · rwa [List.take_append_of_le_length (Nat.le_of_lt shorter)]

/-- A member of a layer that the chain before knows starts where the chain starts. -/
theorem starts_of_leadBack
    {α : Type}
    [DecidableEq α]
    {owner : α -> JavaType}
    {mapTypes : (JavaType -> JavaType) -> α -> α}
    (owner_mapTypes : ∀ rename member, owner (mapTypes rename member) = rename (owner member))
    (nonempty : before ≠ [])
    (classSources : (chain before).ClassSources)
    (classes : ∀ source, source ∈ (chain before).classes.keys ↔
      source ∈ (chain (before.take 1)).classes.keys)
    {members first layerMembers : OrderedMap α α}
    {rename : α -> α}
    {claimed : List α}
    (starts : ∀ source ∈ members.keys, source ∈ first.keys ∨ OwnerStarts before (owner source))
    (known : ∀ member ∈ layerMembers.keys,
      member ∈ members.values ∨ (chain before).KnowsClass (owner member).innermost) :
    ∀ source ∈ (carry rename members
        (Chain.own (renameMember mapTypes members.inverse (chain before).inverse.toRenaming)
          claimed layerMembers)).keys,
      source ∈ first.keys ∨ OwnerStarts (before ++ [layer]) (owner source) := by
  have earlier : ∀ source ∈ members.keys,
      source ∈ first.keys ∨ OwnerStarts (before ++ [layer]) (owner source) := by
    intro source key
    exact (starts source key).imp_right (OwnerStarts.append nonempty)
  intro source key
  rcases mem_keys_carry key with old | ⟨member, memberKey, led⟩
  · exact earlier source old
  · rcases leadBack_member owner_mapTypes classSources (known member memberKey) led with
      old | ownerKey | ⟨kind, inside, produced⟩
    · exact earlier source old
    · refine .inr (.inl ?_)
      rw [take_one_append nonempty]
      exact (classes _).1 ownerKey
    · refine .inr (.inr ⟨kind, before.length, inside, List.length_pos_iff.2 nonempty, ?_, ?_⟩)
      · simp
      · rwa [List.take_left]

/-- A layer that names only what the chain before knows keeps where the chain starts. -/
theorem StartsWithin.append
    (nonempty : before ≠ [])
    (within : StartsWithin before)
    (firstSources : (chain (before.take 1)).ClassSources)
    (layerSources : layer.entries.ClassSources)
    (known : (chain before).firstUnknown? layer.entries = none) :
    StartsWithin (before ++ [layer]) := by
  have classSources : (chain before).ClassSources :=
    fun source key => firstSources source ((within.classes source).1 key)
  obtain ⟨knownClasses, knownFields, knownMethods⟩ := knows_of_firstUnknown?_eq_none known
  have same : (before ++ [layer]).take 1 = before.take 1 := take_one_append nonempty
  constructor
  · intro source
    rw [chain_append_singleton, same]
    constructor
    · intro key
      rcases mem_keys_carry key with old | ⟨other, otherKey, rfl⟩
      · exact (within.classes source).1 old
      · apply (within.classes _).1
        exact leadBack_mem_keys (layerSources other otherKey) (knownClasses other otherKey)
    · intro key
      exact mem_keys_carry_of_mem_keys ((within.classes source).2 key)
  · rw [chain_append_singleton, same]
    exact starts_of_leadBack (fun _ _ => rfl) nonempty classSources within.classes
      within.fields knownFields
  · rw [chain_append_singleton, same]
    exact starts_of_leadBack (fun _ _ => rfl) nonempty classSources within.classes
      within.methods knownMethods

theorem startsWithin_of_take_one
    {layers : List Layer}
    (single : layers.take 1 = layers) :
    StartsWithin layers where
  classes source := by rw [single]
  fields source key := .inl (by rwa [single])
  methods source key := .inl (by rwa [single])

/-- A chain whose layers name nothing unknown starts where its first layer starts. -/
theorem startsWithin_of_known
    {layers : List Layer}
    (classSources : ∀ layer ∈ layers, layer.entries.ClassSources)
    (known : ∀ index, unknownAt? layers index = none) :
    StartsWithin layers := by
  -- The last layer is compared with the chain of all others, so it is added last.
  induction layers using List.reverseRecOn with
  | nil => exact startsWithin_of_take_one rfl
  | append_singleton before layer step =>
      cases before with
      | nil => exact startsWithin_of_take_one rfl
      | cons first more =>
          have nonempty : first :: more ≠ [] := List.cons_ne_nil first more
          have last := known (first :: more).length
          rw [unknownAt?_length, if_neg (mt List.length_eq_zero_iff.1 nonempty)] at last
          have firstSources : (chain ((first :: more).take 1)).ClassSources :=
            classSources_chain_singleton (classSources first List.mem_cons_self)
          have within : StartsWithin (first :: more) := by
            apply step
            · exact fun other otherIn => classSources other (List.mem_append_left _ otherIn)
            · exact unknownAt?_eq_none_of_append known
          exact within.append nonempty firstSources (classSources layer (by simp)) last

end Run

/-- A strict chain is refused exactly for the first entry, of the first layer that has one,
that the layers before do not know. If there is none, it is the chain of its layers and
starts where its first layer starts. -/
theorem strictChain_outcome
    (layers : List Layer)
    (classSources : ∀ layer ∈ layers, layer.entries.ClassSources) :
    (∀ index name, strictChain layers = .error (.unknownName index name) ↔
      FirstUnknownAt layers index name) ∧
    ((∀ index, unknownAt? layers index = none) ->
      strictChain layers = .ok (chain layers) ∧ StartsWithin layers) := by
  refine ⟨strictChain_eq_error_iff layers, fun known => ⟨?_, ?_⟩⟩
  · rcases strictChain_cases layers with ⟨-, run⟩ | ⟨index, name, first, -⟩
    · exact run
    · have unknown := first.unknown
      rw [known index] at unknown
      cases unknown
  · exact startsWithin_of_known classSources known

/-- A class that becomes a primitive type. -/
def primitiveTable : MappingTable where
  classes := .ofList [(.ofLetter 'a', .primitive .int)]

/-- A field that is declared by this primitive type. -/
def primitiveFieldTable : MappingTable where
  fields := .ofList [
    (⟨.primitive .int, .ofLetter 'x'⟩, ⟨.primitive .int, .ofLetter 'y'⟩)]

/-- The field of the primitive type is known, but its declaring type is not led back to the
class. -/
theorem not_startsWithin_primitiveTable :
    ∃ layers table, (∀ layer ∈ layers, layer.entries.ClassSources) ∧
      strictChain layers = .ok table ∧
      ∃ source ∈ table.fields.keys, source ∉ (chain (layers.take 1)).fields.keys ∧
        source.owner.innermost ∉ (chain (layers.take 1)).classes.keys :=
  ⟨[.stored primitiveTable, .stored primitiveFieldTable],
    chain [.stored primitiveTable, .stored primitiveFieldTable], by decide, rfl,
    ⟨.primitive .int, .ofLetter 'x'⟩, by decide, by decide, by decide⟩

/-- The upper table names what the lower table produces; after both, the lower table names
a class that is renamed away. -/
theorem strictChain_outcome_upperTable :
    (∀ layer ∈ [Layer.stored lowerTable, .stored upperTable, .stored lowerTable],
      layer.entries.ClassSources) ∧
    strictChain [.stored lowerTable, .stored upperTable, .stored lowerTable] =
      .error (.unknownName 2 ['a']) ∧
    strictChain [.stored lowerTable, .stored upperTable] =
      .ok (chain [.stored lowerTable, .stored upperTable]) ∧
    StartsWithin [.stored lowerTable, .stored upperTable] ∧
    ⟨.ofLetter 'a', .ofLetter 'x'⟩ ∈
      (chain [.stored lowerTable, .stored upperTable]).fields.keys := by
  have sources : ∀ layer ∈ [Layer.stored lowerTable, .stored upperTable, .stored lowerTable],
      layer.entries.ClassSources := by decide
  have accepted : ∀ layer ∈ [Layer.stored lowerTable, .stored upperTable],
      layer.entries.ClassSources := by decide
  have known : ∀ index, unknownAt? [.stored lowerTable, .stored upperTable] index = none := by
    rintro (_ | _ | index)
    · rfl
    · rfl
    · exact unknownAt?_of_length_le (Nat.le_add_left 2 index)
  obtain ⟨run, within⟩ := (strictChain_outcome _ accepted).2 known
  refine ⟨sources, ?refused, run, within, by decide⟩
  case refused =>
    rw [(strictChain_outcome _ sources).1]
    exact ⟨rfl, by decide⟩

end Chain
end ObfuscationMap
