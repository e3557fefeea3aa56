import ObfuscationMap.Chain.Basic

/-!
# Strict chains

A strict chain refuses a layer after the first that renames something the chain
so far does not produce. A class is known if it is a target of the chain; a
member is known if it is a target of the chain or if its declaring class is. The
refusal names the first unknown entry, classes before fields before methods.
-/

namespace ObfuscationMap
namespace Chain

/-- Whether a chain with a given inverse produces a class. -/
def knowsClass (inverse : Renaming) (source : JavaType) : Bool :=
  (inverse.class? source).isSome

/-- Whether a chain with a given inverse produces a field or its declaring
class. -/
def knowsField (inverse : Renaming) (source : Field) : Bool :=
  inverse.hasField source || inverse.hasClass source.owner

/-- Whether a chain with a given inverse produces a method or its declaring
class. -/
def knowsMethod (inverse : Renaming) (source : Method) : Bool :=
  inverse.hasMethod source || inverse.hasClass source.owner

/-- The names of the entries of a table that a chain with a given inverse does not
know, in order. -/
def unknownNames (inverse : Renaming) (table : MappingTable) : List Text :=
  (table.classes.keys.filter fun source => !knowsClass inverse source).map
      JavaType.sourceName ++
    (table.fields.keys.filter fun source => !knowsField inverse source).map
      Field.internalName ++
    (table.methods.keys.filter fun source => !knowsMethod inverse source).map
      Method.display

/-- The refusal of a layer by a chain, if it renames something unknown. The first
layer is never refused. -/
def refusal? (chain : Chain) (index : Nat) (layer : Layer) : Option MappingError :=
  if index = 0 then
    none
  else
    (unknownNames chain.table.inverse.toRenaming layer.entries).head?.map
      (.unknownName index)

/-- Add layers to a chain, the first of them with the given index, until one is
refused. -/
def extendStrictly (chain : Chain) (index : Nat) :
    List Layer -> Except MappingError Chain
  | [] => .ok chain
  | layer :: rest =>
      match chain.refusal? index layer with
      | some error => .error error
      | none => (chain.extend layer).extendStrictly (index + 1) rest

end Chain

/-- Apply layers in turn, where later layers may only rename what the earlier ones
produce. -/
def strictChain (layers : List Layer) : Except MappingError MappingTable :=
  (Chain.empty.extendStrictly 0 layers).map Chain.table

end ObfuscationMap
