import ObfuscationMap.Proofs.Name.Characters

/-!
# Packages and simple names

The last dot of a class name stands between its package and its simple name, and a class is
known by these two. Both are type names, and a type name may hold dollar signs before a
dot. Packages hold none, so the package of a class such as `a$b.C` is not accepted as a
package. A name that is put together from a package and a simple name comes apart again.
-/

namespace ObfuscationMap

/-- Only the characters of a text decide where it is split. -/
theorem Text.splitOnP_congr
    {left right : Char -> Bool}
    {text : Text}
    (agree : ∀ c ∈ text, left c = right c) :
    text.splitOnP left = text.splitOnP right := by
  induction text with
  | nil => rfl
  | cons c rest step =>
      rw [List.splitOnP_cons_eq_if_modifyHead, List.splitOnP_cons_eq_if_modifyHead,
        agree c List.mem_cons_self, step fun d dIn => agree d (List.mem_cons_of_mem _ dIn)]

namespace Name

/-- A dot joins two type names to a type name. -/
theorem isTypeName_append_dot (left right : Text) :
    isTypeName (left ++ '.' :: right) = (isTypeName left && isTypeName right) := by
  simp only [isTypeName]
  rw [List.splitOnP_append_cons left right (by decide), List.all_append]

theorem dollar_not_mem_of_isPackage
    {text : Text}
    (valid : isPackage text = true) :
    '$' ∉ text := by
  intro dollarIn
  rw [isPackage, Bool.or_eq_true, List.isEmpty_iff, List.all_eq_true] at valid
  rcases valid with rfl | words
  · cases dollarIn
  · rw [List.splitOn_eq_splitOnP] at words
    rcases Text.mem_splitOnP (· == '.') dollarIn with dot | ⟨piece, pieceIn, inPiece⟩
    · exact absurd dot (by decide)
    · have word := words piece pieceIn
      rw [isWord, Bool.and_eq_true, List.all_eq_true] at word
      exact absurd (word.2 '$' inPiece) (by decide)

/-- Without dollar signs a type name is a sequence of words between dots. -/
theorem isTypeName_of_dollar_not_mem
    {text : Text}
    (noDollar : '$' ∉ text) :
    isTypeName text = (text.splitOn '.').all isWord := by
  have agree : ∀ c ∈ text, (c == '.' || c == '$') = (c == '.') := by
    intro c cIn
    have differ : c ≠ '$' := fun same => noDollar (same ▸ cIn)
    simp [differ]
  rw [isTypeName, Text.splitOnP_congr agree, List.splitOn_eq_splitOnP]

theorem isPackage_of_isTypeName
    {text : Text}
    (valid : isTypeName text = true)
    (noDollar : '$' ∉ text) :
    isPackage text = true := by
  rw [isPackage, ← isTypeName_of_dollar_not_mem noDollar, valid, Bool.or_true]

/-- A package other than the default package is a type name. -/
theorem isTypeName_of_isPackage
    {text : Text}
    (valid : isPackage text = true)
    (nonempty : text ≠ []) :
    isTypeName text = true := by
  have noDollar := dollar_not_mem_of_isPackage valid
  rw [isPackage, Bool.or_eq_true, List.isEmpty_iff] at valid
  rw [isTypeName_of_dollar_not_mem noDollar]
  exact valid.resolve_left nonempty

end Name

namespace ClassName

/-- A class name is its simple name, or its package and its simple name with a dot
between them. -/
theorem text_cases (name : ClassName) :
    (name.package = [] ∧ name.simpleName = name.text) ∨
      (Name.isTypeName name.package = true ∧
        name.text = name.package ++ '.' :: name.simpleName) := by
  have valid := name.valid
  rw [isClassName, Bool.and_eq_true] at valid
  rw [package, simpleName]
  cases split : name.text.splitAtLast? '.' with
  | none => exact .inl ⟨rfl, rfl⟩
  | some parts =>
      obtain ⟨before, after⟩ := parts
      have shape := ((Text.splitAtLast?_eq_some_iff _ _ _ _).1 split).1
      rw [shape, Name.isTypeName_append_dot, Bool.and_eq_true] at valid
      exact .inr ⟨valid.1.1, shape⟩

theorem isTypeName_simpleName (name : ClassName) :
    Name.isTypeName name.simpleName = true := by
  have valid := name.valid
  rw [isClassName, Bool.and_eq_true] at valid
  rcases name.text_cases with ⟨-, simple⟩ | ⟨-, shape⟩
  · rw [simple]
    exact valid.1
  · rw [shape, Name.isTypeName_append_dot, Bool.and_eq_true] at valid
    exact valid.1.2

/-- The last dot of a name stands before its simple name. -/
theorem dot_not_mem_simpleName (name : ClassName) : '.' ∉ name.simpleName := by
  rw [simpleName]
  cases split : name.text.splitAtLast? '.' with
  | none => exact (Text.splitAtLast?_eq_none_iff _ _).1 split
  | some parts =>
      obtain ⟨before, after⟩ := parts
      exact ((Text.splitAtLast?_eq_some_iff _ _ _ _).1 split).2

/-- A class has its simple name in its package. -/
theorem text_eq_qualified (name : ClassName) :
    name.text = qualified name.package name.simpleName := by
  rcases name.text_cases with ⟨none, simple⟩ | ⟨valid, shape⟩
  · rw [none, simple]
    rfl
  · have nonempty : name.package.isEmpty ≠ true := by
      rw [ne_eq, List.isEmpty_iff]
      intro missing
      rw [missing] at valid
      exact absurd valid (by decide)
    rw [qualified, if_neg nonempty]
    exact shape

/-- A class is known by its package and its simple name. -/
theorem eq_of_package_of_simpleName
    {left right : ClassName}
    (samePackage : left.package = right.package)
    (sameSimpleName : left.simpleName = right.simpleName) :
    left = right := by
  apply ClassName.ext
  rw [left.text_eq_qualified, right.text_eq_qualified, samePackage, sameSimpleName]

/-- A name that is put together comes apart into the package and the simple name. -/
theorem parts_of_text_eq_qualified
    {name : ClassName}
    {package simple : Text}
    (shape : name.text = qualified package simple)
    (noDot : '.' ∉ simple) :
    name.package = package ∧ name.simpleName = simple := by
  cases package with
  | nil =>
      have whole : name.text = simple := shape
      have split : name.text.splitAtLast? '.' = none :=
        (Text.splitAtLast?_eq_none_iff _ _).2 (whole ▸ noDot)
      rw [ClassName.package, simpleName, split]
      exact ⟨rfl, whole⟩
  | cons c rest =>
      have split : name.text.splitAtLast? '.' = some (c :: rest, simple) :=
        (Text.splitAtLast?_eq_some_iff _ _ _ _).2 ⟨shape, noDot⟩
      rw [ClassName.package, simpleName, split]
      exact ⟨rfl, rfl⟩

theorem isReserved_eq_false_of_dot
    {text : Text}
    (dotIn : '.' ∈ text) :
    isReserved text = false := by
  rw [isReserved, List.any_eq_false]
  intro primitive _ same
  rw [← beq_iff_eq.1 same] at dotIn
  revert dotIn
  cases primitive <;> decide

/-- A simple name names a class in every package, if it is not reserved; in a package other
than the default package also if it is. -/
theorem isClassName_qualified
    {package simple : Text}
    (packageValid : Name.isPackage package = true)
    (simpleValid : Name.isTypeName simple = true)
    (accepted : package = [] -> isReserved simple = false) :
    isClassName (qualified package simple) = true := by
  cases package with
  | nil =>
      have whole : qualified [] simple = simple := rfl
      rw [whole, isClassName, simpleValid, accepted rfl]
      rfl
  | cons c rest =>
      have joined : qualified (c :: rest) simple = c :: rest ++ '.' :: simple := rfl
      have packageName := Name.isTypeName_of_isPackage packageValid (List.cons_ne_nil c rest)
      rw [joined, isClassName, Name.isTypeName_append_dot, packageName, simpleValid,
        isReserved_eq_false_of_dot (by simp)]
      rfl

/-- The package of a class is accepted as a package exactly if it holds no dollar
sign. -/
theorem isPackage_package_iff (name : ClassName) :
    Name.isPackage name.package = true ↔ '$' ∉ name.package := by
  constructor
  · exact Name.dollar_not_mem_of_isPackage
  · intro noDollar
    rcases name.text_cases with ⟨none, -⟩ | ⟨valid, -⟩
    · rw [none]
      rfl
    · exact Name.isPackage_of_isTypeName valid noDollar

end ClassName
end ObfuscationMap
