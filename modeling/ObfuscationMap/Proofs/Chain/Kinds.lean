import Mathlib.Data.List.Induction
import ObfuscationMap.Proofs.Chain.Lookup

/-!
# The kinds of entries in a chain

A chain treats classes, fields and methods alike: a layer brings its new entries with their
sources led back, and the entries of the chain so far are carried on. What follows from
this alone is stated once for all kinds. An entry stays in the chain and is renamed by the
later layers in turn, and the claimed targets are those of all entries of the layers.
-/

namespace ObfuscationMap

/-- Rename a value by layers one after another. -/
def inTurn {α : Type} (rename : Layer -> α -> α) (layers : List Layer) (value : α) : α :=
  layers.foldl (fun value layer => rename layer value) value

theorem inTurn_append
    {α : Type}
    (rename : Layer -> α -> α)
    (before after : List Layer)
    (value : α) :
    inTurn rename (before ++ after) value =
      inTurn rename after (inTurn rename before value) :=
  List.foldl_append

namespace Chain

variable {α : Type} [DecidableEq α]

/-- Which entries are taken over depends on the claims on their targets alone. -/
theorem unclaimed_congr
    {entries : List (α × α)}
    {left right : List α}
    (same : ∀ target ∈ entries.map Prod.snd, target ∈ left ↔ target ∈ right) :
    unclaimed entries left = unclaimed entries right := by
  induction entries generalizing left right with
  | nil => rfl
  | cons first rest step =>
      have here := same first.2 List.mem_cons_self
      have later : ∀ target ∈ rest.map Prod.snd, target ∈ left ↔ target ∈ right :=
        fun target targetIn => same target (List.mem_cons_of_mem _ targetIn)
      rw [unclaimed, unclaimed]
      by_cases refused : first.2 ∈ left
      · rw [if_pos refused, if_pos (here.1 refused), step later]
      · rw [if_neg refused, if_neg (mt here.2 refused)]
        have grown : ∀ target ∈ rest.map Prod.snd,
            target ∈ first.2 :: left ↔ target ∈ first.2 :: right := by
          intro target targetIn
          rw [List.mem_cons, List.mem_cons, later target targetIn]
        rw [step grown]

end Chain

/-- A kind of entries: where tables and chains keep it, and how a renaming acts on it. -/
structure EntryKind (α : Type) [DecidableEq α] where
  /-- The entries of a table. -/
  entries : MappingTable -> OrderedMap α α
  /-- Rename a class or member. -/
  rename : Renaming -> α -> α
  /-- The targets that the layers of a chain have claimed. -/
  claimed : Chain -> List α
  entries_empty : entries .empty = ∅
  claimed_empty : claimed .empty = []
  /-- A layer brings its own entries, and the entries before are carried on. -/
  entries_extend : ∀ before layer, entries (Chain.extend before layer).table =
    Chain.carry (rename layer.toRenaming) (entries before.table)
      (Chain.own (rename before.table.inverse.toRenaming) (claimed before)
        (entries layer.entries))
  /-- A layer claims the targets of all its entries. -/
  claimed_extend : ∀ before layer, claimed (Chain.extend before layer) =
    claimed before ++ (entries layer.entries).values

namespace EntryKind

/-- The class entries. -/
def classes : EntryKind JavaType where
  entries := MappingTable.classes
  rename := Renaming.renameType
  claimed := Chain.claimedClasses
  entries_empty := rfl
  claimed_empty := rfl
  entries_extend _ _ := rfl
  claimed_extend _ _ := rfl

/-- The field entries. -/
def fields : EntryKind Field where
  entries := MappingTable.fields
  rename := Renaming.renameField
  claimed := Chain.claimedFields
  entries_empty := rfl
  claimed_empty := rfl
  entries_extend _ _ := rfl
  claimed_extend _ _ := rfl

/-- The method entries. -/
def methods : EntryKind Method where
  entries := MappingTable.methods
  rename := Renaming.renameMethod
  claimed := Chain.claimedMethods
  entries_empty := rfl
  claimed_empty := rfl
  entries_extend _ _ := rfl
  claimed_extend _ _ := rfl

variable {α : Type} [DecidableEq α] (kind : EntryKind α)

/-- The source that the chain of some layers leads a source back to. -/
def leadBack (before : List Layer) : α -> α :=
  kind.rename (chain before).inverse.toRenaming

/-- An entry of a layer is new if no earlier one has its target, neither in the layer nor
in the layers before. -/
def IsNew (before : List Layer) (layer : Layer) (entry : α × α) : Prop :=
  (∃ earlier later, (kind.entries layer.entries).entries = earlier ++ entry :: later ∧
    entry.2 ∉ earlier.map Prod.snd) ∧
  ∀ other ∈ before, entry.2 ∉ (kind.entries other.entries).values

/-- The new entries of a layer, with their sources led back. -/
def brought (before : List Layer) (layer : Layer) : OrderedMap α α :=
  Chain.own (kind.leadBack before) (kind.claimed (Chain.ofLayers before))
    (kind.entries layer.entries)

theorem entries_chain_append_singleton (before : List Layer) (layer : Layer) :
    kind.entries (chain (before ++ [layer])) =
      Chain.carry (kind.rename layer.toRenaming) (kind.entries (chain before))
        (kind.brought before layer) := by
  rw [chain, Chain.ofLayers_append_singleton, kind.entries_extend]
  rfl

/-- A longer chain has the entries of the chain before, renamed by the layer, and else what
the layer brings. -/
theorem get?_chain_append_singleton (before : List Layer) (layer : Layer) (source : α) :
    (kind.entries (chain (before ++ [layer]))).get? source =
      (((kind.entries (chain before)).get? source).map
        (kind.rename layer.toRenaming)).or ((kind.brought before layer).get? source) := by
  rw [entries_chain_append_singleton, Chain.get?_carry]

/-- The claimed targets are the targets of all entries of the layers. -/
theorem mem_claimed_iff (layers : List Layer) (target : α) :
    target ∈ kind.claimed (Chain.ofLayers layers) ↔
      ∃ layer ∈ layers, target ∈ (kind.entries layer.entries).values := by
  induction layers using List.reverseRecOn with
  | nil => simp [kind.claimed_empty]
  | append_singleton layers layer step =>
      rw [Chain.ofLayers_append_singleton, kind.claimed_extend, List.mem_append, step]
      simp only [List.mem_append, List.mem_singleton, or_and_right, exists_or,
        exists_eq_left]

/-- The entries that a layer brings are its new ones. -/
theorem mem_unclaimed_iff_isNew (before : List Layer) (layer : Layer) (entry : α × α) :
    entry ∈ Chain.unclaimed (kind.entries layer.entries).entries
        (kind.claimed (Chain.ofLayers before)) ↔
      kind.IsNew before layer entry := by
  rw [Chain.mem_unclaimed_iff]
  simp only [mem_claimed_iff, not_exists, not_and]
  constructor
  · rintro ⟨earlier, later, split, free, new⟩
    exact ⟨⟨earlier, later, split, new⟩, free⟩
  · rintro ⟨⟨earlier, later, split, new⟩, free⟩
    exact ⟨earlier, later, split, free, new⟩

/-- Once a chain has an entry, each later layer renames its target. -/
theorem get?_chain_append
    {before : List Layer}
    {source target : α}
    (found : (kind.entries (chain before)).get? source = some target)
    (after : List Layer) :
    (kind.entries (chain (before ++ after))).get? source =
      some (inTurn (fun layer => kind.rename layer.toRenaming) after target) := by
  induction after using List.reverseRecOn with
  | nil => rw [List.append_nil, found, inTurn, List.foldl_nil]
  | append_singleton after layer step =>
      rw [← List.append_assoc, get?_chain_append_singleton, step, Option.map_some,
        Option.some_or, inTurn_append]
      rfl

variable {kind}

theorem IsNew.mem
    {before : List Layer}
    {layer : Layer}
    {entry : α × α}
    (isNew : kind.IsNew before layer entry) :
    entry ∈ (kind.entries layer.entries).entries :=
  Chain.unclaimed_subset _ _ ((kind.mem_unclaimed_iff_isNew before layer entry).2 isNew)

/-- In a layer with distinct targets an entry is new if no layer before has its target. -/
theorem isNew_iff_of_nodup
    {layer : Layer}
    (distinct : (kind.entries layer.entries).values.Nodup)
    (before : List Layer)
    (entry : α × α) :
    kind.IsNew before layer entry ↔
      entry ∈ (kind.entries layer.entries).entries ∧
        ∀ other ∈ before, entry.2 ∉ (kind.entries other.entries).values := by
  constructor
  · exact fun isNew => ⟨isNew.mem, isNew.2⟩
  · rintro ⟨entryIn, free⟩
    obtain ⟨earlier, later, split⟩ := List.append_of_mem entryIn
    refine ⟨⟨earlier, later, split, fun targetIn => ?_⟩, free⟩
    rw [OrderedMap.values, split, List.map_append, List.map_cons, List.nodup_append] at distinct
    exact distinct.2.2 entry.2 targetIn entry.2 List.mem_cons_self rfl

end EntryKind
end ObfuscationMap
