import ObfuscationMap.Proofs.Chain.Kinds
import ObfuscationMap.Proofs.MappingTable.Inverse
import ObfuscationMap.Proofs.Sample

/-!
# The closed form of a chain

A source enters the chain at one layer: the one that has an entry for it when the
chain neither has it nor produces it, with a target that no entry before it has.
From then on the entry stays, and each later layer renames its target. So the
chain answers for a class exactly if some layer introduces it, with the outcome of
the later layers in turn.
-/

namespace ObfuscationMap

/-- Rename a type by layers one after another. -/
def renameTypeInTurn : List Layer -> JavaType -> JavaType :=
  inTurn fun layer => layer.toRenaming.renameType

/-- A layer introduces an entry for a class to the chain of the layers before it. -/
structure Introduces
    (before : List Layer)
    (layer : Layer)
    (source target : JavaType) : Prop where
  /-- The chain has no entry for the source. -/
  newSource : source ∉ (chain before).classes.keys
  /-- The chain does not produce the source. -/
  unproduced : source ∉ (chain before).classes.values
  /-- The layer has the entry, and no earlier one with its target. -/
  first : ∃ earlier later,
    layer.entries.classes.entries = earlier ++ (source, target) :: later ∧
      target ∉ earlier.map Prod.snd
  /-- No layer before has an entry with the target. -/
  unclaimed : ∀ other ∈ before, target ∉ other.entries.classes.values

/-- An entry is introduced if it is new, and the chain neither has its source nor produces
it. -/
theorem introduces_iff
    (before : List Layer)
    (layer : Layer)
    (source target : JavaType) :
    Introduces before layer source target ↔
      source ∉ (chain before).classes.keys ∧ source ∉ (chain before).classes.values ∧
        EntryKind.classes.IsNew before layer (source, target) := by
  constructor
  · rintro ⟨newSource, unproduced, first, unclaimed⟩
    exact ⟨newSource, unproduced, first, unclaimed⟩
  · rintro ⟨newSource, unproduced, first, unclaimed⟩
    exact ⟨newSource, unproduced, first, unclaimed⟩

namespace Chain

theorem get?_chain_append_singleton
    (layers : List Layer)
    (layer : Layer)
    (source : JavaType) :
    (chain (layers ++ [layer])).classes.get? source =
      (((chain layers).classes.get? source).map layer.toRenaming.renameType).or
        (((ofLayers layers).ownEntries layer).classes.get? source) :=
  EntryKind.classes.get?_chain_append_singleton layers layer source

/-- Once a chain has an entry, each later layer renames its target. -/
theorem get?_chain_append
    {before : List Layer}
    {source target : JavaType}
    (found : (chain before).classes.get? source = some target)
    (after : List Layer) :
    (chain (before ++ after)).classes.get? source =
      some (renameTypeInTurn after target) :=
  EntryKind.classes.get?_chain_append found after

/-- For a source that the chain does not have, a layer brings exactly what it
introduces. -/
theorem get?_ownEntries_eq_some_iff
    {before : List Layer}
    {layer : Layer}
    (classSources : layer.entries.ClassSources)
    {source : JavaType}
    (newSource : source ∉ (chain before).classes.keys)
    (target : JavaType) :
    ((ofLayers before).ownEntries layer).classes.get? source = some target ↔
      Introduces before layer source target := by
  have leads : ∀ other ∈ layer.entries.classes.keys,
      (chain before).inverse.toRenaming.renameType other =
        (chain before).classes.inverse.follow other :=
    fun other otherKey => MappingTable.renameType_of_isClass (classSources other otherKey)
  refine (get?_own_eq_some_iff_of_follow_inverse leads newSource target).trans ?_
  rw [introduces_iff, ← EntryKind.mem_unclaimed_iff_isNew]
  exact (and_iff_right newSource).symm

/-- What a layer introduces, the later layers rename in turn. -/
theorem get?_chain_of_introduces
    {before : List Layer}
    {layer : Layer}
    (classSources : layer.entries.ClassSources)
    {source target : JavaType}
    (introduced : Introduces before layer source target)
    (after : List Layer) :
    (chain (before ++ layer :: after)).classes.get? source =
      some (renameTypeInTurn after target) := by
  have fresh := (OrderedMap.get?_eq_none_iff _ _).2 introduced.newSource
  have brought :=
    (get?_ownEntries_eq_some_iff classSources introduced.newSource target).2 introduced
  have entered : (chain (before ++ [layer])).classes.get? source = some target := by
    rw [get?_chain_append_singleton, fresh, Option.map_none, Option.none_or, brought]
  rw [List.append_cons]
  exact get?_chain_append entered after

/-- A chain has no entry that none of its layers introduces. -/
theorem get?_chain_eq_none
    {layers : List Layer}
    (classSources : ∀ layer ∈ layers, layer.entries.ClassSources)
    {source : JavaType}
    (unknown : ∀ before layer after target, layers = before ++ layer :: after ->
      ¬Introduces before layer source target) :
    (chain layers).classes.get? source = none := by
  induction layers using List.reverseRecOn with
  | nil => rfl
  | append_singleton layers last step =>
      have absent : (chain layers).classes.get? source = none := by
        apply step
        · exact fun layer layerIn => classSources layer (List.mem_append_left _ layerIn)
        · rintro before layer after target rfl
          exact unknown before layer (after ++ [last]) target (by simp)
      have newSource := (OrderedMap.get?_eq_none_iff _ _).1 absent
      have lastSources := classSources last (by simp)
      rw [get?_chain_append_singleton, absent, Option.map_none, Option.none_or,
        Option.eq_none_iff_forall_ne_some]
      intro target brought
      exact unknown layers last [] target rfl
        ((get?_ownEntries_eq_some_iff lastSources newSource target).1 brought)

/-- The answer of a chain for a class is the entry that one of its layers introduces,
renamed by the later layers in turn; without such a layer there is none. An entry
of a part of the layers stays in the chain and is renamed by the others in turn. -/
theorem class?_chain_closedForm
    (layers : List Layer)
    (classSources : ∀ layer ∈ layers, layer.entries.ClassSources)
    (source : JavaType) :
    (∀ before layer after target,
      layers = before ++ layer :: after ->
      Introduces before layer source target ->
      (chain layers).toRenaming.class? source =
        some (renameTypeInTurn after target)) ∧
    ((∀ before layer after target,
      layers = before ++ layer :: after ->
      ¬Introduces before layer source target) ->
      (chain layers).toRenaming.class? source = none) ∧
    (∀ before after target,
      layers = before ++ after ->
      (chain before).toRenaming.class? source = some target ->
      (chain layers).toRenaming.class? source =
        some (renameTypeInTurn after target)) := by
  refine ⟨?introduced, get?_chain_eq_none classSources, ?carried⟩
  case introduced =>
    rintro before layer after target rfl introduced
    exact get?_chain_of_introduces (classSources layer (by simp)) introduced after
  case carried =>
    rintro before after target rfl found
    exact get?_chain_append found after

/-- A table with an entry that is refused because its target is taken. -/
def crowdedLayer : Layer :=
  .stored {
    classes := .ofList [
      (.ofLetter 'a', .ofLetter 'b'),
      (.ofLetter 'c', .ofLetter 'd'),
      (.ofLetter 'e', .ofLetter 'd')] }

/-- Moves from the default package to the package `p`. -/
def packingLayer : Layer :=
  .moved ⟨.ofList [([], ['p'])], by decide⟩

/-- A table with entries for a produced class, for a class of the chain, and for the
class that was refused. -/
def lateLayer : Layer :=
  .stored {
    classes := .ofList [
      (.named ['p', '.', 'b'], .ofLetter 'x'),
      (.ofLetter 'c', .ofLetter 'y'),
      (.ofLetter 'e', .ofLetter 'z')] }

/-- The first entry of the first layer goes through both later layers; the one that
the first layer could not introduce comes in with the last. -/
theorem class?_chain_closedForm_crowded :
    (∀ layer ∈ [crowdedLayer, packingLayer, lateLayer], layer.entries.ClassSources) ∧
    (chain [crowdedLayer, packingLayer, lateLayer]).toRenaming.class? (.ofLetter 'a') =
      some (.ofLetter 'x') ∧
    (chain [crowdedLayer, packingLayer, lateLayer]).toRenaming.class? (.ofLetter 'e') =
      some (.ofLetter 'z') := by
  have classSources :
      ∀ layer ∈ [crowdedLayer, packingLayer, lateLayer], layer.entries.ClassSources := by
    decide
  have atFirst : Introduces [] crowdedLayer (.ofLetter 'a') (.ofLetter 'b') :=
    ⟨by decide, by decide, ⟨[], _, rfl, by decide⟩, by decide⟩
  have atLast :
      Introduces [crowdedLayer, packingLayer] lateLayer (.ofLetter 'e') (.ofLetter 'z') :=
    ⟨by decide, by decide, ⟨[_, _], [], rfl, by decide⟩, by decide⟩
  refine ⟨classSources, ?first, ?last⟩
  case first =>
    have answer := (class?_chain_closedForm _ classSources _).1 [] _ _ _ rfl atFirst
    exact answer.trans (by decide)
  case last =>
    have answer := (class?_chain_closedForm _ classSources _).1 [_, _] _ [] _ rfl atLast
    exact answer

end Chain
end ObfuscationMap
