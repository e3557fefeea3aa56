import ObfuscationMap.JavaType.SourceName

/-!
# The brackets of arrays

A source name ends with a pair of brackets for each dimension of its type. A name is split
into its stem and these pairs, and a stem that holds no brackets is found again.
-/

namespace ObfuscationMap
namespace JavaType

/-- The pairs of brackets of a type with a given number of dimensions. -/
def brackets : Nat -> Text
  | 0 => []
  | depth + 1 => '[' :: ']' :: brackets depth

theorem brackets_append (depth : Nat) : brackets depth ++ ['[', ']'] = brackets (depth + 1) := by
  induction depth with
  | zero => rfl
  | succ depth step =>
      rw [brackets, List.cons_append, List.cons_append, step]
      rfl

theorem map_brackets
    {change : Char -> Char}
    (opening : change '[' = '[')
    (closing : change ']' = ']')
    (depth : Nat) :
    (brackets depth).map change = brackets depth := by
  induction depth with
  | zero => rfl
  | succ depth step => rw [brackets, List.map_cons, List.map_cons, opening, closing, step]

theorem mem_of_mem_brackets
    {c : Char}
    {depth : Nat}
    (cIn : c ∈ brackets depth) :
    c ∈ ['[', ']'] := by
  induction depth with
  | zero => cases cIn
  | succ depth step =>
      rcases List.mem_append.1 (show c ∈ ['[', ']'] ++ brackets depth from cIn) with
        here | later
      · exact here
      · exact step later

theorem takeWhile_append_brackets
    {stem : Text}
    (plain : '[' ∉ stem)
    (depth : Nat) :
    (stem ++ brackets depth).takeWhile (· ≠ '[') = stem := by
  have inside : ∀ c ∈ stem, decide (c ≠ '[') = true := by
    intro c cIn
    rw [decide_eq_true_eq]
    rintro rfl
    exact plain cIn
  rw [List.takeWhile_append_of_pos inside]
  cases depth <;> simp [brackets]

/-! ## Writing brackets -/

/-- A way of writing types that ends arrays with a pair of brackets ends them with a pair for
each dimension. -/
theorem arrayOf_append_brackets
    {write : JavaType -> Text}
    (closes : ∀ element, write (.array element) = write element ++ ['[', ']'])
    (element : JavaType)
    (depth : Nat) :
    write (element.arrayOf depth) = write element ++ brackets depth := by
  induction depth with
  | zero => rw [arrayOf, brackets, List.append_nil]
  | succ depth step => rw [arrayOf, closes, step, List.append_assoc, brackets_append]

theorem sourceName_arrayOf (element : JavaType) (depth : Nat) :
    (element.arrayOf depth).sourceName = element.sourceName ++ brackets depth :=
  arrayOf_append_brackets (fun _ => rfl) element depth

theorem internalName_arrayOf (element : JavaType) (depth : Nat) :
    (element.arrayOf depth).internalName = element.internalName ++ brackets depth :=
  arrayOf_append_brackets (fun _ => rfl) element depth

theorem sourceName_eq_append (type : JavaType) :
    type.sourceName = type.innermost.sourceName ++ brackets type.depth := by
  rw [← sourceName_arrayOf, arrayOf_innermost]

/-! ## Splitting brackets off -/

theorem splitReversed_append (reversed : Text) :
    (splitReversed reversed).1.reverse ++ brackets (splitReversed reversed).2 =
      reversed.reverse := by
  fun_induction splitReversed reversed with
  | case1 rest stem depth split step =>
      rw [split] at step
      rw [← brackets_append, ← List.append_assoc, step]
      simp
  | case2 => simp [brackets]

/-- A name is its stem followed by the pairs of brackets. -/
theorem splitBrackets_eq_append (name : Text) :
    (splitBrackets name).1 ++ brackets (splitBrackets name).2 = name := by
  have whole := splitReversed_append name.reverse
  rwa [List.reverse_reverse] at whole

theorem splitBrackets_append (stem : Text) :
    splitBrackets (stem ++ ['[', ']']) =
      ((splitBrackets stem).1, (splitBrackets stem).2 + 1) := by
  have reversed : (stem ++ ['[', ']']).reverse = ']' :: '[' :: stem.reverse := by simp
  rw [splitBrackets, reversed, splitReversed]
  rfl

/-- A stem without brackets is not split. -/
theorem splitBrackets_of_not_mem {stem : Text} (plain : ']' ∉ stem) :
    splitBrackets stem = (stem, 0) := by
  have kept : splitReversed stem.reverse = (stem.reverse, 0) := by
    rw [splitReversed.eq_def]
    split
    · next rest same =>
        have closing : ']' ∈ stem.reverse := by simp [same]
        exact absurd (List.mem_reverse.1 closing) plain
    · rfl
  rw [splitBrackets, kept]
  simp only [List.reverse_reverse]

theorem splitBrackets_append_brackets
    {stem : Text}
    (plain : ']' ∉ stem)
    (depth : Nat) :
    splitBrackets (stem ++ brackets depth) = (stem, depth) := by
  induction depth with
  | zero => rw [brackets, List.append_nil, splitBrackets_of_not_mem plain]
  | succ depth step =>
      rw [← brackets_append, ← List.append_assoc, splitBrackets_append, step]

end JavaType
end ObfuscationMap
