import ObfuscationMap.Layer

/-!
# Chains of layers

A chain applies layers in turn and stores the outcome as a table. Each new layer
acts twice. Its own entries are taken over, with their sources led back through
the inverse of the chain so far, unless an earlier entry has claimed their
target. Then every entry of the chain so far is carried on: its target is renamed
by the layer, and it stands against an entry that the layer brought.
-/

namespace ObfuscationMap
namespace Chain

variable {α : Type} [DecidableEq α]

/-- The entries whose target is neither claimed before nor the target of an
earlier entry of the list. -/
def unclaimed : List (α × α) -> List α -> List (α × α)
  | [], _ => []
  | entry :: rest, claimed =>
      if entry.2 ∈ claimed then
        unclaimed rest claimed
      else
        entry :: unclaimed rest (entry.2 :: claimed)

/-- The unclaimed entries of a layer, with their sources led back. -/
def own (leadBack : α -> α) (claimed : List α) (layer : OrderedMap α α) :
    OrderedMap α α :=
  .ofList ((unclaimed layer.entries claimed).map fun entry =>
    (leadBack entry.1, entry.2))

/-- Carry the entries of a chain on, with their targets renamed. -/
def carry (rename : α -> α) (chained : OrderedMap α α) (own : OrderedMap α α) :
    OrderedMap α α :=
  own.insertAll (chained.entries.map fun entry => (entry.1, rename entry.2))

end Chain

/-- A chain that is being built: the table so far, and the targets of all entries
of the layers so far. -/
structure Chain where
  table : MappingTable := .empty
  claimedClasses : List JavaType := []
  claimedFields : List Field := []
  claimedMethods : List Method := []

namespace Chain

/-- The chain of no layers. -/
def empty : Chain := {}

/-- The entries that a layer brings to a chain itself. -/
def ownEntries (chain : Chain) (layer : Layer) : MappingTable where
  classes := own chain.table.inverse.toRenaming.renameType
    chain.claimedClasses layer.entries.classes
  fields := own chain.table.inverse.toRenaming.renameField
    chain.claimedFields layer.entries.fields
  methods := own chain.table.inverse.toRenaming.renameMethod
    chain.claimedMethods layer.entries.methods

/-- Add a layer to a chain. -/
def extend (chain : Chain) (layer : Layer) : Chain where
  table := {
    classes := carry layer.toRenaming.renameType chain.table.classes
      (chain.ownEntries layer).classes
    fields := carry layer.toRenaming.renameField chain.table.fields
      (chain.ownEntries layer).fields
    methods := carry layer.toRenaming.renameMethod chain.table.methods
      (chain.ownEntries layer).methods }
  claimedClasses := chain.claimedClasses ++ layer.entries.classes.values
  claimedFields := chain.claimedFields ++ layer.entries.fields.values
  claimedMethods := chain.claimedMethods ++ layer.entries.methods.values

/-- The chain of a list of layers. -/
def ofLayers (layers : List Layer) : Chain :=
  layers.foldl extend empty

end Chain

/-- Apply layers in turn. -/
def chain (layers : List Layer) : MappingTable :=
  (Chain.ofLayers layers).table

namespace Chain

@[simp] theorem ofLayers_nil : ofLayers [] = empty := rfl

/-- A chain grows by its last layer. -/
@[simp] theorem ofLayers_append_singleton (layers : List Layer) (layer : Layer) :
    ofLayers (layers ++ [layer]) = (ofLayers layers).extend layer := by
  simp [ofLayers]

end Chain
end ObfuscationMap
