import ObfuscationMap.Chain.Strict
import ObfuscationMap.Proofs.OrderedMap.Lookup

/-!
# Where a strict chain is refused

A strict chain is refused at the first layer that names something the layers before it do
not produce, for the first such name. A strict chain that is not refused is the chain of
its layers.
-/

namespace ObfuscationMap
namespace MappingTable

/-- A table knows the classes that are its targets. -/
def KnowsClass (table : MappingTable) (source : JavaType) : Prop :=
  source ∈ table.classes.values

/-- A table knows the fields that are its targets, and those of the classes it knows. -/
def KnowsField (table : MappingTable) (source : Field) : Prop :=
  source ∈ table.fields.values ∨ table.KnowsClass source.owner.innermost

/-- A table knows the methods that are its targets, and those of the classes it knows. -/
def KnowsMethod (table : MappingTable) (source : Method) : Prop :=
  source ∈ table.methods.values ∨ table.KnowsClass source.owner.innermost

instance (table : MappingTable) (source : JavaType) : Decidable (table.KnowsClass source) :=
  inferInstanceAs (Decidable (_ ∈ _))

instance (table : MappingTable) (source : Field) : Decidable (table.KnowsField source) :=
  inferInstanceAs (Decidable (_ ∨ _))

instance (table : MappingTable) (source : Method) : Decidable (table.KnowsMethod source) :=
  inferInstanceAs (Decidable (_ ∨ _))

/-- The name of the first entry of a layer that a table does not know, classes before
fields before methods. -/
def firstUnknown? (table layer : MappingTable) : Option Text :=
  ((layer.classes.keys.find? fun source => !decide (table.KnowsClass source)).map
      JavaType.sourceName).or
    (((layer.fields.keys.find? fun source => !decide (table.KnowsField source)).map
      Field.internalName).or
    ((layer.methods.keys.find? fun source => !decide (table.KnowsMethod source)).map
      Method.display))

end MappingTable

/-- The name of the first entry of the layer at an index that the layers before it do not
know. The first layer may name anything. -/
def unknownAt? (layers : List Layer) (index : Nat) : Option Text :=
  if index = 0 then
    none
  else
    layers[index]?.bind fun layer =>
      (chain (layers.take index)).firstUnknown? layer.entries

/-- The layer at an index is the first that names something unknown, and the name is the
first such name of it. -/
structure FirstUnknownAt (layers : List Layer) (index : Nat) (name : Text) : Prop where
  unknown : unknownAt? layers index = some name
  known : ∀ earlier < index, unknownAt? layers earlier = none

theorem FirstUnknownAt.unique
    {layers : List Layer}
    {left right : Nat}
    {leftName rightName : Text}
    (leftFirst : FirstUnknownAt layers left leftName)
    (rightFirst : FirstUnknownAt layers right rightName) :
    left = right ∧ leftName = rightName := by
  have same : left = right := by
    rcases Nat.lt_trichotomy left right with before | same | after
    · have unknown := leftFirst.unknown
      rw [rightFirst.known left before] at unknown
      cases unknown
    · exact same
    · have unknown := rightFirst.unknown
      rw [leftFirst.known right after] at unknown
      cases unknown
  subst same
  have unknown := leftFirst.unknown
  rw [rightFirst.unknown] at unknown
  exact ⟨rfl, (Option.some.inj unknown).symm⟩

namespace Chain

section Inverse

variable (table : MappingTable)

theorem knowsClass_inverse (source : JavaType) :
    knowsClass table.inverse.toRenaming source = decide (table.KnowsClass source) :=
  OrderedMap.isSome_get?_inverse table.classes source

theorem knowsField_inverse (source : Field) :
    knowsField table.inverse.toRenaming source = decide (table.KnowsField source) := by
  have field := OrderedMap.isSome_get?_inverse table.fields source
  have owner := OrderedMap.isSome_get?_inverse table.classes source.owner.innermost
  exact (congrArg₂ or field owner).trans (Bool.decide_or _ _).symm

theorem knowsMethod_inverse (source : Method) :
    knowsMethod table.inverse.toRenaming source = decide (table.KnowsMethod source) := by
  have method := OrderedMap.isSome_get?_inverse table.methods source
  have owner := OrderedMap.isSome_get?_inverse table.classes source.owner.innermost
  exact (congrArg₂ or method owner).trans (Bool.decide_or _ _).symm

theorem head?_unknownNames (layer : MappingTable) :
    (unknownNames table.inverse.toRenaming layer).head? = table.firstUnknown? layer := by
  simp only [unknownNames, knowsClass_inverse, knowsField_inverse, knowsMethod_inverse,
    List.head?_append, List.head?_map, List.head?_filter, Option.or_assoc,
    MappingTable.firstUnknown?]

end Inverse

theorem knows_of_firstUnknown?_eq_none
    {table layer : MappingTable}
    (known : table.firstUnknown? layer = none) :
    (∀ source ∈ layer.classes.keys, table.KnowsClass source) ∧
    (∀ source ∈ layer.fields.keys, table.KnowsField source) ∧
    (∀ source ∈ layer.methods.keys, table.KnowsMethod source) := by
  simpa [MappingTable.firstUnknown?, List.find?_eq_none] using known

section Refusals

theorem unknownAt?_of_length_le
    {layers : List Layer}
    {index : Nat}
    (outside : layers.length ≤ index) :
    unknownAt? layers index = none := by
  rw [unknownAt?, List.getElem?_eq_none outside]
  exact ite_self none

/-- The layers after an index do not matter for what is unknown at it. -/
theorem unknownAt?_append
    {before : List Layer}
    {index : Nat}
    (inside : index < before.length)
    (after : List Layer) :
    unknownAt? (before ++ after) index = unknownAt? before index := by
  rw [unknownAt?, unknownAt?, List.getElem?_append_left inside,
    List.take_append_of_le_length (Nat.le_of_lt inside)]

theorem unknownAt?_eq_none_of_append
    {before after : List Layer}
    (known : ∀ index, unknownAt? (before ++ after) index = none)
    (index : Nat) :
    unknownAt? before index = none := by
  rcases Nat.lt_or_ge index before.length with inside | outside
  · rw [← unknownAt?_append inside after]
    exact known index
  · exact unknownAt?_of_length_le outside

theorem unknownAt?_length
    (before : List Layer)
    (layer : Layer)
    (rest : List Layer) :
    unknownAt? (before ++ layer :: rest) before.length =
      if before.length = 0 then none else (chain before).firstUnknown? layer.entries := by
  rw [unknownAt?, List.getElem?_append_right (Nat.le_refl _), Nat.sub_self,
    List.getElem?_cons_zero, List.take_left]
  rfl

/-- A chain of layers refuses the next one exactly for the first name it does not know. -/
theorem refusal?_ofLayers
    (before : List Layer)
    (layer : Layer)
    (rest : List Layer) :
    (ofLayers before).refusal? before.length layer =
      (unknownAt? (before ++ layer :: rest) before.length).map
        (.unknownName before.length) := by
  rw [unknownAt?_length, refusal?, head?_unknownNames]
  split <;> rfl

/-- A strict run adds all layers if none of them names something unknown, and it stops at
the first that does. -/
theorem extendStrictly_cases
    {before rest : List Layer}
    (known : ∀ index < before.length, unknownAt? (before ++ rest) index = none) :
    ((∀ index, unknownAt? (before ++ rest) index = none) ∧
      (ofLayers before).extendStrictly before.length rest = .ok (ofLayers (before ++ rest))) ∨
    ∃ index name, FirstUnknownAt (before ++ rest) index name ∧
      (ofLayers before).extendStrictly before.length rest =
        .error (.unknownName index name) := by
  induction rest generalizing before with
  | nil =>
      rw [List.append_nil] at known ⊢
      refine .inl ⟨fun index => ?_, rfl⟩
      rcases Nat.lt_or_ge index before.length with inside | outside
      · exact known index inside
      · exact unknownAt?_of_length_le outside
  | cons layer rest step =>
      have refused := refusal?_ofLayers before layer rest
      rw [extendStrictly]
      cases unknown : unknownAt? (before ++ layer :: rest) before.length with
      | some name =>
          rw [unknown] at refused
          rw [refused]
          exact .inr ⟨before.length, name, ⟨unknown, known⟩, rfl⟩
      | none =>
          rw [unknown] at refused
          rw [refused]
          -- The run goes on with the layer moved to the layers before.
          have grown : before ++ layer :: rest = (before ++ [layer]) ++ rest := by simp
          have later : ∀ index < (before ++ [layer]).length,
              unknownAt? ((before ++ [layer]) ++ rest) index = none := by
            intro index inside
            rw [← grown]
            rw [List.length_append, List.length_singleton] at inside
            rcases Nat.lt_succ_iff_lt_or_eq.1 inside with earlier | rfl
            · exact known index earlier
            · exact unknown
          have outcome := step later
          rw [← grown, ofLayers_append_singleton, List.length_append] at outcome
          exact outcome

/-- A strict chain is the chain of its layers, or it is refused at the first layer that
names something unknown. -/
theorem strictChain_cases (layers : List Layer) :
    ((∀ index, unknownAt? layers index = none) ∧ strictChain layers = .ok (chain layers)) ∨
    ∃ index name, FirstUnknownAt layers index name ∧
      strictChain layers = .error (.unknownName index name) := by
  have start : ∀ index < ([] : List Layer).length, unknownAt? ([] ++ layers) index = none :=
    fun index inside => absurd inside (Nat.not_lt_zero index)
  rcases extendStrictly_cases start with ⟨known, run⟩ | ⟨index, name, first, run⟩
  · exact .inl ⟨known, congrArg (Except.map Chain.table) run⟩
  · exact .inr ⟨index, name, first, congrArg (Except.map Chain.table) run⟩

theorem strictChain_eq_error_iff (layers : List Layer) (index : Nat) (name : Text) :
    strictChain layers = .error (.unknownName index name) ↔
      FirstUnknownAt layers index name := by
  rcases strictChain_cases layers with ⟨known, run⟩ | ⟨first, text, unknown, run⟩
  · rw [run]
    constructor
    · rintro ⟨⟩
    · intro there
      have absurdly := there.unknown
      rw [known index] at absurdly
      cases absurdly
  · rw [run]
    constructor
    · rintro ⟨⟩
      exact unknown
    · intro there
      obtain ⟨rfl, rfl⟩ := there.unique unknown
      rfl

/-- A strict chain that is not refused is the chain, and its layers name nothing unknown. -/
theorem known_of_strictChain
    {layers : List Layer}
    {table : MappingTable}
    (accepted : strictChain layers = .ok table) :
    (∀ index, unknownAt? layers index = none) ∧ table = chain layers := by
  rcases strictChain_cases layers with ⟨known, run⟩ | ⟨index, name, -, run⟩
  · rw [run] at accepted
    cases accepted
    exact ⟨known, rfl⟩
  · rw [run] at accepted
    cases accepted

end Refusals

end Chain
end ObfuscationMap
