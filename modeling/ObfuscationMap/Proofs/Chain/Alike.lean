import ObfuscationMap.Proofs.Chain.ClosedForm
import ObfuscationMap.Proofs.Chain.Provenance

/-!
# Chains that are alike

Two chains are alike in a kind of entries if they answer alike and the same targets are
claimed in both; the order of their entries may differ. Layers that differ in order alone
keep chains alike in classes. They keep them alike in members if the layer is unambiguous:
no type of a new source is a target of several classes of the chain, and no two new entries
are led back to one source. Else the last such class or entry would decide.
-/

namespace ObfuscationMap

namespace EntryKind

variable {α : Type} [DecidableEq α] {kind : EntryKind α}

/-- Two layers rename alike, and their entries of a kind are the same with distinct
targets. -/
structure SameLayer (kind : EntryKind α) (left right : Layer) : Prop where
  renames : left.toRenaming = right.toRenaming
  answers : ∀ source,
    (kind.entries left.entries).get? source = (kind.entries right.entries).get? source
  leftDistinct : (kind.entries left.entries).values.Nodup
  rightDistinct : (kind.entries right.entries).values.Nodup

/-- The chains of two lists of layers have the same entries of a kind, and the same targets
are claimed in both. -/
structure Alike (kind : EntryKind α) (left right : List Layer) : Prop where
  answers : ∀ source,
    (kind.entries (chain left)).get? source = (kind.entries (chain right)).get? source
  claims : ∀ target,
    (∃ layer ∈ left, target ∈ (kind.entries layer.entries).values) ↔
      ∃ layer ∈ right, target ∈ (kind.entries layer.entries).values

variable {left right : List Layer} {leftLayer rightLayer : Layer}

/-- Stored tables with the same entries of a kind and the same renaming are such layers. -/
theorem SameLayer.of_sameEntries
    {left right : MappingTable}
    (renames : left.toRenaming = right.toRenaming)
    (same : (kind.entries left).sameEntries (kind.entries right) = true)
    (distinct : (kind.entries left).values.Nodup) :
    kind.SameLayer (.stored left) (.stored right) where
  renames := renames
  answers := (OrderedMap.sameEntries_iff_get? _ _).1 same
  leftDistinct := distinct
  rightDistinct :=
    (((OrderedMap.sameEntries_iff_perm _ _).1 same).map Prod.snd).nodup_iff.1 distinct

theorem SameLayer.symm (same : kind.SameLayer leftLayer rightLayer) :
    kind.SameLayer rightLayer leftLayer where
  renames := same.renames.symm
  answers source := (same.answers source).symm
  leftDistinct := same.rightDistinct
  rightDistinct := same.leftDistinct

theorem Alike.symm (alike : kind.Alike left right) : kind.Alike right left where
  answers source := (alike.answers source).symm
  claims target := (alike.claims target).symm

theorem Alike.isNew_iff
    (alike : kind.Alike left right)
    (same : kind.SameLayer leftLayer rightLayer)
    (entry : α × α) :
    kind.IsNew left leftLayer entry ↔ kind.IsNew right rightLayer entry := by
  have claims := not_congr (alike.claims entry.2)
  push Not at claims
  rw [isNew_iff_of_nodup same.leftDistinct, isNew_iff_of_nodup same.rightDistinct,
    OrderedMap.mem_entries_congr same.answers, claims]

/-- Layers that bring the same to chains that are alike keep them alike. -/
theorem Alike.append_singleton
    (alike : kind.Alike left right)
    (same : kind.SameLayer leftLayer rightLayer)
    (brought : ∀ source ∉ (kind.entries (chain left)).keys, ∀ target,
      (kind.brought left leftLayer).get? source = some target ↔
        (kind.brought right rightLayer).get? source = some target) :
    kind.Alike (left ++ [leftLayer]) (right ++ [rightLayer]) where
  answers source := by
    rw [get?_chain_append_singleton, get?_chain_append_singleton, ← alike.answers,
      same.renames]
    cases found : (kind.entries (chain left)).get? source with
    | some target => rfl
    | none =>
        have newSource := (OrderedMap.get?_eq_none_iff _ source).1 found
        rw [Option.map_none, Option.none_or, Option.none_or]
        exact Option.ext (brought source newSource)
  claims target := by
    simp only [List.mem_append, List.mem_singleton, or_and_right, exists_or, exists_eq_left,
      alike.claims target, OrderedMap.mem_values_congr same.answers]

theorem alike_nil (kind : EntryKind α) : kind.Alike [] [] where
  answers _ := rfl
  claims _ := Iff.rfl

/-- Chains of classes stay alike: what a layer brings does not depend on the order. -/
theorem Alike.classes_append_singleton
    (alike : classes.Alike left right)
    (same : classes.SameLayer leftLayer rightLayer)
    (leftSources : leftLayer.entries.ClassSources)
    (rightSources : rightLayer.entries.ClassSources) :
    classes.Alike (left ++ [leftLayer]) (right ++ [rightLayer]) := by
  apply alike.append_singleton same
  intro source newSource target
  have otherNew : source ∉ (chain right).classes.keys :=
    mt (OrderedMap.mem_keys_congr alike.answers source).2 newSource
  have introduced : Introduces left leftLayer source target ↔
      Introduces right rightLayer source target := by
    have key := OrderedMap.mem_keys_congr alike.answers source
    have produced := OrderedMap.mem_values_congr alike.answers source
    rw [introduces_iff, introduces_iff]
    exact and_congr (not_congr key)
      (and_congr (not_congr produced) (alike.isNew_iff same (source, target)))
  exact (Chain.get?_ownEntries_eq_some_iff leftSources newSource target).trans
    (introduced.trans (Chain.get?_ownEntries_eq_some_iff rightSources otherNew target).symm)

end EntryKind

/-- A kind of members: a renaming acts on them by its own entries, or else by their types. -/
structure MemberKind (μ : Type) [DecidableEq μ] extends EntryKind μ where
  /-- The types of a member. -/
  types : μ -> List JavaType
  /-- Change the types of a member. -/
  mapTypes : (JavaType -> JavaType) -> μ -> μ
  follows : FollowsTypes types mapTypes
  rename_inverse : ∀ table : MappingTable, ∀ member,
    rename table.inverse.toRenaming member =
      Chain.renameMember mapTypes (entries table).inverse table.inverse.toRenaming member

namespace MemberKind

/-- The field entries. -/
def fields : MemberKind Field where
  toEntryKind := EntryKind.fields
  types := Field.types
  mapTypes rename field := field.mapTypes rename
  follows := Field.followsTypes
  rename_inverse _ _ := rfl

/-- The method entries. -/
def methods : MemberKind Method where
  toEntryKind := EntryKind.methods
  types := Method.types
  mapTypes rename method := method.mapTypes rename
  follows := Method.followsTypes
  rename_inverse _ _ := rfl

variable {μ : Type} [DecidableEq μ]

/-- What a layer brings to a chain does not depend on any order. -/
structure Unambiguous (kind : MemberKind μ) (before : List Layer) (layer : Layer) : Prop where
  /-- The types of a new source that the chain does not produce are led back one way. -/
  oneSource : ∀ entry, kind.IsNew before layer entry ->
    entry.1 ∉ (kind.entries (chain before)).values ->
      ∀ type ∈ kind.types entry.1, (chain before).HasOneSource type
  /-- No two new entries are led back to one source that the chain does not have. -/
  apart : ∀ entry other, kind.IsNew before layer entry -> kind.IsNew before layer other ->
    kind.leadBack before entry.1 = kind.leadBack before other.1 ->
      kind.leadBack before entry.1 ∉ (kind.entries (chain before)).keys -> entry = other

instance (kind : MemberKind μ) (before : List Layer) (layer : Layer) :
    Decidable (kind.Unambiguous before layer) :=
  let brought := Chain.unclaimed (kind.entries layer.entries).entries
    (kind.claimed (Chain.ofLayers before))
  have isNew (entry : μ × μ) : entry ∈ brought ↔ kind.IsNew before layer entry :=
    kind.mem_unclaimed_iff_isNew before layer entry
  decidable_of_iff
    ((∀ entry ∈ brought, entry.1 ∉ (kind.entries (chain before)).values ->
        ∀ type ∈ kind.types entry.1, (chain before).HasOneSource type) ∧
      ∀ entry ∈ brought, ∀ other ∈ brought,
        kind.leadBack before entry.1 = kind.leadBack before other.1 ->
          kind.leadBack before entry.1 ∉ (kind.entries (chain before)).keys -> entry = other)
    ⟨fun ⟨oneSource, apart⟩ =>
        ⟨fun entry entryNew => oneSource entry ((isNew entry).2 entryNew),
          fun entry other entryNew otherNew =>
            apart entry ((isNew entry).2 entryNew) other ((isNew other).2 otherNew)⟩,
      fun unambiguous =>
        ⟨fun entry entryIn => unambiguous.oneSource entry ((isNew entry).1 entryIn),
          fun entry entryIn other otherIn =>
            unambiguous.apart entry other ((isNew entry).1 entryIn) ((isNew other).1 otherIn)⟩⟩

variable {kind : MemberKind μ}

/-- A member that a chain produces is led back to a source of the chain. -/
theorem leadBack_mem_keys_of_mem_values
    {before : List Layer}
    {member : μ}
    (produced : member ∈ (kind.entries (chain before)).values) :
    kind.leadBack before member ∈ (kind.entries (chain before)).keys := by
  rw [EntryKind.leadBack, kind.rename_inverse, Chain.renameMember]
  cases led : (kind.entries (chain before)).inverse.get? member with
  | none => exact absurd produced ((OrderedMap.get?_inverse_eq_none_iff _ _).1 led)
  | some source => exact OrderedMap.mem_keys_of_get?_inverse led

/-- An unambiguous layer brings, for a source that the chain does not have, any of its new
entries that is led back to the source. -/
theorem Unambiguous.get?_brought_eq_some_iff
    {before : List Layer}
    {layer : Layer}
    (unambiguous : kind.Unambiguous before layer)
    {source : μ}
    (newSource : source ∉ (kind.entries (chain before)).keys)
    (target : μ) :
    (kind.brought before layer).get? source = some target ↔
      ∃ other, kind.IsNew before layer (other, target) ∧
        kind.leadBack before other = source := by
  rw [kind.toEntryKind.get?_brought_eq_some_iff]
  constructor
  · exact fun ⟨other, supplies⟩ => ⟨other, supplies.isNew, supplies.ledBack⟩
  · rintro ⟨other, isNew, rfl⟩
    refine ⟨other, rfl, isNew, ?_⟩
    obtain ⟨earlier, later, split⟩ := List.append_of_mem isNew.mem
    refine ⟨earlier, later, split, fun entry entryIn entryNew led => ?_⟩
    have same := unambiguous.apart _ entry isNew entryNew led.symm newSource
    have distinct := (kind.entries layer.entries).nodup_entries
    rw [split, List.nodup_append, List.nodup_cons] at distinct
    exact distinct.2.1.1 (same ▸ entryIn)

section TwoChains

variable {left right : List Layer} {leftLayer rightLayer : Layer}

/-- Chains that are alike lead the new sources of an unambiguous layer back alike, unless
they produce them. -/
theorem Unambiguous.leadBack_eq
    (unambiguous : kind.Unambiguous left leftLayer)
    (classes : EntryKind.classes.Alike left right)
    (members : kind.Alike left right)
    {entry : μ × μ}
    (isNew : kind.IsNew left leftLayer entry)
    (unproduced : entry.1 ∉ (kind.entries (chain left)).values) :
    kind.leadBack left entry.1 = kind.leadBack right entry.1 := by
  have otherUnproduced : entry.1 ∉ (kind.entries (chain right)).values :=
    mt (OrderedMap.mem_values_congr members.answers entry.1).2 unproduced
  rw [EntryKind.leadBack, EntryKind.leadBack, kind.rename_inverse, kind.rename_inverse,
    Chain.renameMember, Chain.renameMember,
    (OrderedMap.get?_inverse_eq_none_iff _ _).2 unproduced,
    (OrderedMap.get?_inverse_eq_none_iff _ _).2 otherUnproduced]
  apply kind.follows.mapTypes_congr
  intro type typeIn
  have oneSource := unambiguous.oneSource entry isNew unproduced type typeIn
  exact MappingTable.renameType_inverse_congr classes.answers oneSource

/-- An unambiguous layer is so after any chain that is alike. -/
theorem Unambiguous.of_alike
    (unambiguous : kind.Unambiguous left leftLayer)
    (classes : EntryKind.classes.Alike left right)
    (members : kind.Alike left right)
    (same : kind.SameLayer leftLayer rightLayer) :
    kind.Unambiguous right rightLayer where
  oneSource entry isNew unproduced type typeIn := by
    have leftNew := (members.isNew_iff same entry).2 isNew
    have leftUnproduced := mt (OrderedMap.mem_values_congr members.answers entry.1).1 unproduced
    have oneSource := unambiguous.oneSource entry leftNew leftUnproduced type typeIn
    intro first firstIn second secondIn
    exact oneSource first ((OrderedMap.mem_entries_congr classes.answers first).2 firstIn)
      second ((OrderedMap.mem_entries_congr classes.answers second).2 secondIn)
  apart entry other entryNew otherNew led newSource := by
    have leftNew := (members.isNew_iff same entry).2 entryNew
    have otherLeftNew := (members.isNew_iff same other).2 otherNew
    have unproduced {member : μ}
        (fresh : kind.leadBack right member ∉ (kind.entries (chain right)).keys) :
        member ∉ (kind.entries (chain left)).values := fun produced =>
      fresh (leadBack_mem_keys_of_mem_values
        ((OrderedMap.mem_values_congr members.answers member).1 produced))
    have entryLed := unambiguous.leadBack_eq classes members leftNew (unproduced newSource)
    have otherLed := unambiguous.leadBack_eq classes members otherLeftNew
      (unproduced (led ▸ newSource))
    apply unambiguous.apart entry other leftNew otherLeftNew
    · rw [entryLed, otherLed, led]
    · rw [entryLed]
      exact mt (OrderedMap.mem_keys_congr members.answers _).1 newSource

/-- What an unambiguous layer brings to a chain, it brings to one that is alike. -/
theorem Unambiguous.get?_brought_of_alike
    (unambiguous : kind.Unambiguous left leftLayer)
    (classes : EntryKind.classes.Alike left right)
    (members : kind.Alike left right)
    (same : kind.SameLayer leftLayer rightLayer)
    {source target : μ}
    (newSource : source ∉ (kind.entries (chain left)).keys)
    (brought : (kind.brought left leftLayer).get? source = some target) :
    (kind.brought right rightLayer).get? source = some target := by
  obtain ⟨other, isNew, rfl⟩ := (unambiguous.get?_brought_eq_some_iff newSource target).1 brought
  have unproduced : other ∉ (kind.entries (chain left)).values :=
    fun produced => newSource (leadBack_mem_keys_of_mem_values produced)
  have led := unambiguous.leadBack_eq classes members isNew unproduced
  have otherNew := mt (OrderedMap.mem_keys_congr members.answers _).2 newSource
  rw [(unambiguous.of_alike classes members same).get?_brought_eq_some_iff otherNew]
  exact ⟨other, (members.isNew_iff same _).1 isNew, led.symm⟩

/-- Chains of members stay alike under an unambiguous layer. -/
theorem Unambiguous.alike_append_singleton
    (unambiguous : kind.Unambiguous left leftLayer)
    (classes : EntryKind.classes.Alike left right)
    (members : kind.Alike left right)
    (same : kind.SameLayer leftLayer rightLayer) :
    kind.Alike (left ++ [leftLayer]) (right ++ [rightLayer]) := by
  apply members.append_singleton same
  intro source newSource target
  have otherNew := mt (OrderedMap.mem_keys_congr members.answers source).2 newSource
  have otherUnambiguous := unambiguous.of_alike classes members same
  constructor
  · exact unambiguous.get?_brought_of_alike classes members same newSource
  · exact otherUnambiguous.get?_brought_of_alike classes.symm members.symm same.symm otherNew

end TwoChains

end MemberKind
end ObfuscationMap
