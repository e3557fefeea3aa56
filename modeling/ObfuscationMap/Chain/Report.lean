import ObfuscationMap.Chain.Strict

/-!
# The reports of inversions and chains

Inverting a table is worth a warning if several sources share a target, because
the inverse then lacks entries. Adding a layer inverts the chain so far, then
renames its targets by the layer, and leaves a notice with the numbers of entries.
A strict chain that refuses a layer has inverted the chain so far and does no more.
-/

namespace ObfuscationMap

/-- The report of inverting a table. -/
def MappingTable.reportInverse (table : MappingTable) : Report :=
  if table.inverse.counts = table.counts then
    .empty
  else
    .ofNotice (.lostByInversion table.lostByInversion)

namespace Chain

/-- The report of adding a layer that is not refused. -/
def reportExtend (chain : Chain) (index : Nat) (layer : Layer) : Report :=
  layer.reportAll chain.table.classes.values chain.table.fields.values
      chain.table.methods.values ++
    .ofNotice (.chainedLayer index (chain.ownEntries layer).counts
      (chain.extend layer).table.counts)

/-- The report of adding layers, the first of them with the given index. -/
def reportLayers (strict : Bool) (chain : Chain) (index : Nat) :
    List Layer -> Report
  | [] => .empty
  | layer :: rest =>
      chain.table.reportInverse ++
        if strict && (chain.refusal? index layer).isSome then
          .empty
        else
          chain.reportExtend index layer ++
            (chain.extend layer).reportLayers strict (index + 1) rest

end Chain

/-- The report of applying layers in turn. -/
def reportChain (strict : Bool) (layers : List Layer) : Report :=
  Chain.empty.reportLayers strict 0 layers

end ObfuscationMap
