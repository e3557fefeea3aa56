import ObfuscationMap.Proofs.Chain.Kinds

/-!
# Links of maps

Among classes alone, and as long as no target is claimed twice, chaining is an operation on
two maps. Their link carries the entries of the first on by the second, and it takes over
those entries of the second whose source the first neither has nor produces. A link has
distinct targets if its maps have. Links are associative if no source of the second map is
stale in the first, and none of the third is stale in the second alone. A table is added to
a chain by linking their classes, as long as the chain still has each target of it that is
claimed.
-/

namespace ObfuscationMap
namespace Chain

/-- The second of two maps has distinct targets, and none of them is one of the first. -/
structure Linkable {α : Type} (first second : OrderedMap α α) : Prop where
  distinct : second.values.Nodup
  apart : ∀ target ∈ second.values, target ∉ first.values

theorem Linkable.of_nodup
    {α : Type}
    {first second : OrderedMap α α}
    (distinct : (first.values ++ second.values).Nodup) :
    Linkable first second := by
  obtain ⟨-, secondDistinct, apart⟩ := List.nodup_append.1 distinct
  exact ⟨secondDistinct, fun target late early => apart target early target late rfl⟩

variable {α : Type} [DecidableEq α]

/-- Carry a map on by a second one, and bring the entries of the second with their sources
led back by the first. -/
def link (first second : OrderedMap α α) : OrderedMap α α :=
  carry second.follow first (own first.inverse.follow first.values second)

variable {first second third : OrderedMap α α}

/-- A link has the entries of the first map, carried on, and those entries of the second
whose source the first neither has nor produces. -/
theorem get?_link (linkable : Linkable first second) (source : α) :
    (link first second).get? source =
      ((first.get? source).map second.follow).or
        (if source ∈ first.values then none else second.get? source) := by
  rw [link, get?_carry]
  cases found : first.get? source with
  | some middle => rfl
  | none =>
      have newSource := (OrderedMap.get?_eq_none_iff first source).1 found
      rw [Option.map_none, Option.none_or, Option.none_or]
      apply Option.ext
      intro target
      rw [get?_own_eq_some_iff_of_follow_inverse (fun _ _ => rfl) newSource,
        unclaimed_eq_self linkable.distinct linkable.apart, ← OrderedMap.get?_eq_some_iff]
      by_cases produced : source ∈ first.values
      · simp [produced]
      · simp [produced]

theorem get?_link_of_get?_eq_some
    (linkable : Linkable first second)
    {source middle : α}
    (found : first.get? source = some middle) :
    (link first second).get? source = some (second.follow middle) := by
  rw [get?_link linkable, found, Option.map_some, Option.some_or]

theorem get?_link_of_get?_eq_none
    (linkable : Linkable first second)
    {source : α}
    (absent : first.get? source = none) :
    (link first second).get? source =
      if source ∈ first.values then none else second.get? source := by
  rw [get?_link linkable, absent, Option.map_none, Option.none_or]

/-- An entry of a link is one of the first map, carried on, or one of the second whose
source the first neither has nor produces. -/
theorem get?_link_eq_some_iff (linkable : Linkable first second) (source target : α) :
    (link first second).get? source = some target ↔
      (∃ middle, first.get? source = some middle ∧ second.follow middle = target) ∨
        first.get? source = none ∧ source ∉ first.values ∧
          second.get? source = some target := by
  cases found : first.get? source with
  | some middle => simp [get?_link_of_get?_eq_some linkable found]
  | none => simp [get?_link_of_get?_eq_none linkable found]

/-- Links of maps that answer alike answer alike. -/
theorem get?_link_congr
    {otherFirst otherSecond : OrderedMap α α}
    (linkable : Linkable first second)
    (otherLinkable : Linkable otherFirst otherSecond)
    (sameFirst : ∀ source, first.get? source = otherFirst.get? source)
    (sameSecond : ∀ source, second.get? source = otherSecond.get? source)
    (source : α) :
    (link first second).get? source = (link otherFirst otherSecond).get? source := by
  have follows : second.follow = otherSecond.follow := by
    funext middle
    rw [OrderedMap.follow, OrderedMap.follow, sameSecond]
  have produced := OrderedMap.mem_values_congr sameFirst source
  rw [get?_link linkable, get?_link otherLinkable, sameFirst, sameSecond, follows]
  simp only [produced]

/-- A link leads a key as its maps do in turn, unless the first map only produces it. -/
theorem follow_link
    (linkable : Linkable first second)
    {source : α}
    (before : source ∈ first.keys ∨ source ∉ first.values) :
    (link first second).follow source = second.follow (first.follow source) := by
  cases found : first.get? source with
  | some middle =>
      rw [OrderedMap.follow_of_get?_eq_some found,
        OrderedMap.follow_of_get?_eq_some (get?_link_of_get?_eq_some linkable found)]
  | none =>
      have newSource := (OrderedMap.get?_eq_none_iff first source).1 found
      rw [OrderedMap.follow_of_get?_eq_none found, OrderedMap.follow, OrderedMap.follow,
        get?_link_of_get?_eq_none linkable found, if_neg (before.resolve_left newSource)]

/-- The targets of a link are those targets of the first map that the second does not
rename, and targets of the second. -/
theorem mem_values_of_mem_values_link
    (linkable : Linkable first second)
    {target : α}
    (targetIn : target ∈ (link first second).values) :
    target ∈ first.values ∧ target ∉ second.keys ∨ target ∈ second.values := by
  simp only [OrderedMap.mem_values_iff] at targetIn ⊢
  obtain ⟨source, linked⟩ := targetIn
  rcases (get?_link_eq_some_iff linkable source target).1 linked with
    ⟨middle, found, led⟩ | ⟨-, -, brought⟩
  · cases renamed : second.get? middle with
    | some value =>
        rw [OrderedMap.follow_of_get?_eq_some renamed] at led
        exact .inr ⟨middle, led ▸ renamed⟩
    | none =>
        rw [OrderedMap.follow_of_get?_eq_none renamed] at led
        subst led
        exact .inl ⟨⟨source, found⟩, (OrderedMap.get?_eq_none_iff _ _).1 renamed⟩
  · exact .inr ⟨source, brought⟩

/-- A link keeps the targets of the first map that the second does not rename. -/
theorem mem_values_link_of_not_mem_keys
    (linkable : Linkable first second)
    {target : α}
    (produced : target ∈ first.values)
    (unnamed : target ∉ second.keys) :
    target ∈ (link first second).values := by
  rw [OrderedMap.mem_values_iff] at produced ⊢
  obtain ⟨source, found⟩ := produced
  have still := OrderedMap.follow_of_get?_eq_none ((OrderedMap.get?_eq_none_iff _ _).2 unnamed)
  exact ⟨source, still ▸ get?_link_of_get?_eq_some linkable found⟩

/-- A link has the targets of the second map, if no source of the second is stale. -/
theorem mem_values_link_of_mem_values
    (linkable : Linkable first second)
    (kept : ∀ source ∈ second.keys, source ∈ first.keys -> source ∈ first.values)
    {target : α}
    (produced : target ∈ second.values) :
    target ∈ (link first second).values := by
  rw [OrderedMap.mem_values_iff] at produced ⊢
  obtain ⟨source, found⟩ := produced
  by_cases between : source ∈ first.values
  · obtain ⟨origin, led⟩ := (OrderedMap.mem_values_iff first source).1 between
    have carried := get?_link_of_get?_eq_some linkable led
    exact ⟨origin, OrderedMap.follow_of_get?_eq_some found ▸ carried⟩
  · have sourceKey := OrderedMap.mem_keys_of_get?_eq_some found
    have newSource : source ∉ first.keys := fun old => between (kept source sourceKey old)
    have absent := (OrderedMap.get?_eq_none_iff first source).2 newSource
    exact ⟨source, by rw [get?_link_of_get?_eq_none linkable absent, if_neg between, found]⟩

/-- A target that comes out of the first map is not one that the second map brings. -/
theorem ne_of_follow_eq_of_get?_eq_some
    (linkable : Linkable first second)
    {middle source target : α}
    (produced : middle ∈ first.values)
    (unproduced : source ∉ first.values)
    (brought : second.get? source = some target) :
    second.follow middle ≠ target := by
  intro led
  have targetIn := OrderedMap.mem_values_of_get?_eq_some brought
  cases renamed : second.get? middle with
  | some value =>
      rw [OrderedMap.follow_of_get?_eq_some renamed] at led
      have same := OrderedMap.source_unique linkable.distinct (led ▸ renamed) brought
      exact unproduced (same ▸ produced)
  | none =>
      rw [OrderedMap.follow_of_get?_eq_none renamed] at led
      exact linkable.apart target targetIn (led ▸ produced)

/-- No two sources share a target in a link of maps with distinct targets. -/
theorem nodup_values_link (linkable : Linkable first second) (distinct : first.values.Nodup) :
    (link first second).values.Nodup := by
  have value {source middle : α} (found : first.get? source = some middle) :
      middle ∈ first.values :=
    OrderedMap.mem_values_of_get?_eq_some found
  have free {source middle : α} (found : first.get? source = some middle) :
      middle ∉ second.values :=
    fun targetIn => linkable.apart middle targetIn (value found)
  apply OrderedMap.nodup_values_of_source_unique
  intro left right target leftLinked rightLinked
  rw [get?_link_eq_some_iff linkable] at leftLinked rightLinked
  rcases leftLinked with ⟨leftMiddle, leftFound, leftLed⟩ | ⟨-, leftFree, leftBrought⟩
  · rcases rightLinked with ⟨rightMiddle, rightFound, rightLed⟩ | ⟨-, rightFree, rightBrought⟩
    · have same := OrderedMap.eq_of_follow_eq linkable.distinct (free leftFound)
        (free rightFound) (leftLed.trans rightLed.symm)
      exact OrderedMap.source_unique distinct leftFound (same ▸ rightFound)
    · exact absurd leftLed
        (ne_of_follow_eq_of_get?_eq_some linkable (value leftFound) rightFree rightBrought)
  · rcases rightLinked with ⟨rightMiddle, rightFound, rightLed⟩ | ⟨-, rightFree, rightBrought⟩
    · exact absurd rightLed
        (ne_of_follow_eq_of_get?_eq_some linkable (value rightFound) leftFree leftBrought)
    · exact OrderedMap.source_unique linkable.distinct leftBrought rightBrought

theorem Linkable.link_right
    (firstSecond : Linkable first second)
    (firstThird : Linkable first third)
    (secondThird : Linkable second third) :
    Linkable first (link second third) where
  distinct := nodup_values_link secondThird firstSecond.distinct
  apart target targetIn := by
    rcases mem_values_of_mem_values_link secondThird targetIn with ⟨early, -⟩ | late
    · exact firstSecond.apart target early
    · exact firstThird.apart target late

theorem Linkable.link_left
    (firstSecond : Linkable first second)
    (firstThird : Linkable first third)
    (secondThird : Linkable second third) :
    Linkable (link first second) third where
  distinct := secondThird.distinct
  apart target targetIn linked := by
    rcases mem_values_of_mem_values_link firstSecond linked with ⟨early, -⟩ | late
    · exact firstThird.apart target targetIn early
    · exact secondThird.apart target targetIn late

/-- Links of three maps may be grouped either way, if a source of the second map is one of
the first only when the first produces it too, and no source of the third is both produced
by the first and renamed by the second. -/
theorem sameEntries_link_assoc
    (firstSecond : Linkable first second)
    (firstThird : Linkable first third)
    (secondThird : Linkable second third)
    (kept : ∀ source ∈ second.keys, source ∈ first.keys -> source ∈ first.values)
    (fresh : ∀ source ∈ third.keys, ¬(source ∈ first.values ∧ source ∈ second.keys)) :
    (link first (link second third)).sameEntries (link (link first second) third) = true := by
  have outer := firstSecond.link_right firstThird secondThird
  have inner := firstSecond.link_left firstThird secondThird
  rw [OrderedMap.sameEntries_iff_get?]
  intro source
  cases found : first.get? source with
  | some middle =>
      have produced := OrderedMap.mem_values_of_get?_eq_some found
      have unproduced : middle ∉ second.values :=
        fun targetIn => firstSecond.apart middle targetIn produced
      rw [get?_link_of_get?_eq_some outer found, follow_link secondThird (.inr unproduced),
        get?_link_of_get?_eq_some inner (get?_link_of_get?_eq_some firstSecond found)]
  | none =>
      have linked := get?_link_of_get?_eq_none firstSecond found
      rw [get?_link_of_get?_eq_none outer found]
      by_cases produced : source ∈ first.values
      · -- Neither grouping takes over an entry for a source that the first map produces.
        rw [if_pos produced] at linked ⊢
        rw [get?_link_of_get?_eq_none inner linked]
        by_cases key : source ∈ third.keys
        · have unnamed : source ∉ second.keys := fun named => fresh source key ⟨produced, named⟩
          rw [if_pos (mem_values_link_of_not_mem_keys firstSecond produced unnamed)]
        · rw [(OrderedMap.get?_eq_none_iff third source).2 key, ite_self]
      · rw [if_neg produced] at linked ⊢
        rw [get?_link secondThird, get?_link inner, linked]
        -- Elsewhere the first link produces the same sources as the second map alone.
        have same : source ∈ (link first second).values ↔ source ∈ second.values := by
          constructor
          · intro targetIn
            exact (mem_values_of_mem_values_link firstSecond targetIn).resolve_left
              fun early => produced early.1
          · exact mem_values_link_of_mem_values firstSecond kept
        simp only [same]

/-- A table whose classes start from classes is added to a chain by linking their classes, if
those of its targets are claimed that the chain still has. -/
theorem classes_chain_append_stored
    {before : List Layer}
    {last : MappingTable}
    (classTargets : ∀ target ∈ (chain before).classes.values, target.isClass = true)
    (classSources : last.ClassSources)
    (claims : ∀ target ∈ last.classes.values,
      (∃ other ∈ before, target ∈ other.entries.classes.values) ↔
        target ∈ (chain before).classes.values) :
    (chain (before ++ [.stored last])).classes =
      link (chain before).classes last.classes := by
  have carried : ∀ target ∈ (chain before).classes.values,
      last.toRenaming.renameType target = last.classes.follow target :=
    fun target targetIn => MappingTable.renameType_of_isClass (classTargets target targetIn)
  have leads : ∀ source ∈ last.classes.keys,
      (chain before).inverse.toRenaming.renameType source =
        (chain before).classes.inverse.follow source :=
    fun source key => MappingTable.renameType_of_isClass (classSources source key)
  have sameClaims : unclaimed last.classes.entries (ofLayers before).claimedClasses =
      unclaimed last.classes.entries (chain before).classes.values :=
    unclaimed_congr fun target targetIn =>
      (EntryKind.classes.mem_claimed_iff before target).trans (claims target targetIn)
  calc (chain (before ++ [Layer.stored last])).classes
      = carry last.toRenaming.renameType (chain before).classes
          (own (chain before).inverse.toRenaming.renameType
            (ofLayers before).claimedClasses last.classes) :=
        EntryKind.classes.entries_chain_append_singleton before (.stored last)
    _ = carry last.classes.follow (chain before).classes
          (own (chain before).classes.inverse.follow
            (ofLayers before).claimedClasses last.classes) := by
        rw [carry_congr carried, own_congr leads]
    _ = link (chain before).classes last.classes := by
        rw [link, own, own, sameClaims]

end Chain
end ObfuscationMap
