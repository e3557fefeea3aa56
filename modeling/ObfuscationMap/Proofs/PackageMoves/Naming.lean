import ObfuscationMap.PackageMoves.Basic
import ObfuscationMap.Proofs.JavaType.RoundTrip
import ObfuscationMap.Proofs.Name.Packages

/-!
# Moved classes and their internal names

A class in a package is never spelled like a primitive type. So moves take a class that
is read back from its internal name to one that is not only if they strip off its
package: the simple name may be a spelling such as `Int`, which names a class but is
read as a primitive type. The name `int` itself is refused, and the class stays.
-/

namespace ObfuscationMap

theorem Text.sameIgnoringCase_primitiveName_of_dot
    {text : Text}
    (dotIn : '.' ∈ text)
    (primitive : Primitive) :
    Text.sameIgnoringCase primitive.name text = false := by
  rw [Text.sameIgnoringCase, beq_eq_false_iff_ne]
  intro same
  have lowered : '.' ∈ text.map Char.toLower := List.mem_map.2 ⟨'.', dotIn, by decide⟩
  rw [← same] at lowered
  revert lowered
  cases primitive <;> decide

theorem JavaType.isNameable_reference_iff (name : ClassName) :
    (JavaType.reference name).IsNameable ↔
      ∀ primitive : Primitive, Text.sameIgnoringCase primitive.name name.text = false := by
  constructor
  · intro nameable
    exact nameable name rfl
  · rintro apart other ⟨⟩
    exact apart

namespace PackageMoves

/-! ## Tables that are taken as moves -/

theorem table_of_ofTable
    {table : OrderedMap Text Text}
    {moves : PackageMoves}
    (accepted : ofTable table = .ok moves) :
    moves.table = table := by
  unfold ofTable at accepted
  split at accepted
  · cases accepted
  · cases accepted
    rfl

theorem exists_ofTable_eq_ok_iff (table : OrderedMap Text Text) :
    (∃ moves, ofTable table = .ok moves) ↔
      ∀ move ∈ table.entries,
        Name.isPackage move.1 = true ∧ Name.isPackage move.2 = true := by
  constructor
  · rintro ⟨moves, accepted⟩
    rw [← table_of_ofTable accepted]
    exact moves.valid
  · intro valid
    have sound : firstInvalid? table = none := by
      rw [firstInvalid?, List.find?_eq_none]
      intro package packageIn
      obtain ⟨move, moveIn, side⟩ := List.mem_flatMap.1 packageIn
      simp only [List.mem_cons, List.not_mem_nil, or_false] at side
      rcases side with rfl | rfl
      · simp [valid move moveIn]
      · simp [valid move moveIn]
    unfold ofTable
    split
    · next package found =>
        rw [sound] at found
        cases found
    · exact ⟨_, rfl⟩

/-! ## Moved classes -/

/-- The moves strip a class of its package, and its simple name is spelled like a
primitive type without being the name of one. -/
structure StripsToPrimitive (moves : PackageMoves) (name : ClassName) : Prop where
  stripped : moves.table.get? name.package = some []
  accepted : ClassName.isReserved name.simpleName = false
  spelled : ∃ primitive : Primitive,
    Text.sameIgnoringCase primitive.name name.simpleName = true

variable {moves : PackageMoves} {name : ClassName}

theorem move_of_get?_eq_none (unmoved : moves.table.get? name.package = none) :
    moves.move name = name := by
  rw [move, attempt?, unmoved]
  rfl

/-- A moved class has its new name, or the old one if the new one is refused. -/
theorem move_of_get?_eq_some
    {package : Text}
    (moved : moves.table.get? name.package = some package) :
    moves.move name =
      (ClassName.ofText (ClassName.qualified package name.simpleName)).toOption.getD name := by
  rw [move, attempt?, moved, Option.map_some]
  cases ClassName.ofText (ClassName.qualified package name.simpleName) <;> rfl

/-- Moves leave a class where it is or give it the name that it has in its new
package. -/
theorem move_cases (moves : PackageMoves) (name : ClassName) :
    moves.move name = name ∨
      ∃ package, moves.table.get? name.package = some package ∧
        (moves.move name).text = ClassName.qualified package name.simpleName := by
  cases moved : moves.table.get? name.package with
  | none => exact .inl (move_of_get?_eq_none moved)
  | some package =>
      rw [move_of_get?_eq_some moved]
      cases outcome : ClassName.ofText (ClassName.qualified package name.simpleName) with
      | error refusal => exact .inl rfl
      | ok renamed => exact .inr ⟨package, rfl, (ClassName.ofText_eq_ok_iff _ _).1 outcome⟩

/-- A moved class keeps its simple name, unless the name is reserved and the class would have
it in the default package. -/
theorem text_move
    {package : Text}
    (moved : moves.table.get? name.package = some package)
    (accepted : package = [] -> ClassName.isReserved name.simpleName = false) :
    (moves.move name).text = ClassName.qualified package name.simpleName := by
  have packageValid := (moves.valid _ ((OrderedMap.get?_eq_some_iff _ _ _).1 moved)).2
  have valid := ClassName.isClassName_qualified packageValid name.isTypeName_simpleName accepted
  have read : ClassName.ofText (ClassName.qualified package name.simpleName) =
      .ok ⟨ClassName.qualified package name.simpleName, valid⟩ :=
    (ClassName.ofText_eq_ok_iff _ _).2 rfl
  rw [move_of_get?_eq_some moved, read]
  rfl

/-- A class that is not refused has its simple name in the target package. -/
theorem parts_move_of_get?_eq_some
    {package : Text}
    (moved : moves.table.get? name.package = some package)
    (accepted : package = [] -> ClassName.isReserved name.simpleName = false) :
    (moves.move name).package = package ∧ (moves.move name).simpleName = name.simpleName :=
  ClassName.parts_of_text_eq_qualified (text_move moved accepted) name.dot_not_mem_simpleName

/-- A nameable class stays nameable under moves unless they strip it to the spelling of a
primitive type. -/
theorem isNameable_move_iff (nameable : (JavaType.reference name).IsNameable) :
    (JavaType.reference (moves.move name)).IsNameable ↔ ¬moves.StripsToPrimitive name := by
  constructor
  · intro movedNameable strips
    obtain ⟨primitive, same⟩ := strips.spelled
    have apart := (JavaType.isNameable_reference_iff _).1 movedNameable primitive
    have simple : ClassName.qualified [] name.simpleName = name.simpleName := rfl
    rw [text_move strips.stripped fun _ => strips.accepted, simple, same] at apart
    cases apart
  · intro kept
    rcases moves.move_cases name with still | ⟨package, moved, text⟩
    · rwa [still]
    · rw [JavaType.isNameable_reference_iff, text]
      intro primitive
      cases package with
      | cons c rest =>
          apply Text.sameIgnoringCase_primitiveName_of_dot
          simp [ClassName.qualified]
      | nil =>
          have valid := (moves.move name).valid
          rw [text, ClassName.isClassName, Bool.and_eq_true, Bool.not_eq_true'] at valid
          rw [← Bool.not_eq_true]
          exact fun same => kept ⟨moved, valid.2, primitive, same⟩

/-- A nameable type stays nameable under moves unless they strip the class in it so. -/
theorem isNameable_renameType_iff
    {type : JavaType}
    (nameable : type.IsNameable) :
    (moves.toRenaming.renameType type).IsNameable ↔
      ∀ name, type.innermost = .reference name -> ¬moves.StripsToPrimitive name := by
  induction type with
  | reference name =>
      rw [renameType_reference, isNameable_move_iff nameable]
      constructor
      · rintro kept other ⟨⟩
        exact kept
      · exact fun kept => kept name rfl
  | primitive kind =>
      constructor
      · rintro - name ⟨⟩
      · exact fun _ => nameable
  | array element step => exact step nameable

end PackageMoves
end ObfuscationMap
