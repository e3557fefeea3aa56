/-!
# Text

Text is worked on as its list of characters, so that every reader and writer of
the library is a function by recursion on that list. This module holds the
operations that several notations share: replacing a separator and splitting at
its last occurrence. A property of characters is stored as the ranges of the code
points that have it.
-/

namespace ObfuscationMap

/-- Text, as the list of its characters. -/
abbrev Text := List Char

namespace Text

/-- Put one character in the place of every occurrence of another. -/
def replace (old new : Char) (text : Text) : Text :=
  text.map fun c => if c = old then new else c

/-- Dots become slashes: the internal form of a dotted name. -/
def slashed (text : Text) : Text :=
  text.replace '.' '/'

/-- Slashes become dots: the source form of an internal name. -/
def dotted (text : Text) : Text :=
  text.replace '/' '.'

/-- The parts before and after the last occurrence of a separator, or nothing if
it does not occur. -/
def splitAtLast? (separator : Char) : Text -> Option (Text × Text)
  | [] => none
  | c :: rest =>
      match splitAtLast? separator rest with
      | some (before, after) => some (c :: before, after)
      | none => if c = separator then some ([], rest) else none

/-- Equality of texts up to the case of ASCII letters. -/
def sameIgnoringCase (left right : Text) : Bool :=
  left.map Char.toLower == right.map Char.toLower

@[simp] theorem replace_nil (old new : Char) : replace old new [] = [] := rfl

@[simp] theorem replace_cons (old new c : Char) (rest : Text) :
    replace old new (c :: rest) =
      (if c = old then new else c) :: replace old new rest := rfl

@[simp] theorem replace_append (old new : Char) (left right : Text) :
    replace old new (left ++ right) = replace old new left ++ replace old new right :=
  List.map_append

/-- A text has no last occurrence exactly if the separator does not occur. -/
theorem splitAtLast?_eq_none_iff
    (separator : Char)
    (text : Text) :
    splitAtLast? separator text = none ↔ separator ∉ text := by
  induction text with
  | nil => simp [splitAtLast?]
  | cons c rest step =>
      rw [splitAtLast?]
      cases found : splitAtLast? separator rest with
      | some parts =>
          have occurs : separator ∈ rest :=
            Decidable.byContradiction fun absent =>
              nomatch found.symm.trans (step.2 absent)
          simp [occurs]
      | none =>
          have absent := step.1 found
          by_cases here : c = separator
          · simp [here]
          · simp [here, absent, Ne.symm here]

/-- The last occurrence splits a text into what stands before it and after it,
and the part after it holds no further occurrence. -/
theorem splitAtLast?_eq_some_iff
    (separator : Char)
    (text before after : Text) :
    splitAtLast? separator text = some (before, after) ↔
      text = before ++ separator :: after ∧ separator ∉ after := by
  induction text generalizing before after with
  | nil => simp [splitAtLast?]
  | cons c rest step =>
      rw [splitAtLast?]
      cases found : splitAtLast? separator rest with
      | some parts =>
          obtain ⟨inner, last⟩ := parts
          have split := (step inner last).1 found
          constructor
          · rintro ⟨⟩
            exact ⟨by rw [split.1, List.cons_append], split.2⟩
          · rintro ⟨equal, absent⟩
            cases before with
            | nil =>
                simp only [List.nil_append, List.cons.injEq] at equal
                rw [← equal.2, split.1] at absent
                simp at absent
            | cons d outer =>
                simp only [List.cons_append, List.cons.injEq] at equal
                have again := (step outer after).2 ⟨equal.2, absent⟩
                rw [found] at again
                cases again
                rw [equal.1]
      | none =>
          have absent := (splitAtLast?_eq_none_iff separator rest).1 found
          cases before with
          | nil =>
              by_cases here : c = separator
              · subst here
                constructor
                · simp only [if_true, Option.some.injEq, Prod.mk.injEq]
                  rintro ⟨-, rfl⟩
                  exact ⟨rfl, absent⟩
                · simp only [List.nil_append, List.cons.injEq]
                  rintro ⟨⟨-, rfl⟩, -⟩
                  simp
              · simp [here]
          | cons d outer =>
              have apart : rest ≠ outer ++ separator :: after := by
                rintro rfl
                simp at absent
              by_cases here : c = separator <;> simp [here, apart]

end Text

/-- Inclusive ranges of code points. -/
abbrev CodeRanges := List (Nat × Nat)

namespace CodeRanges

/-- Whether the code point of a character lies in one of the ranges. -/
def covers (ranges : CodeRanges) (c : Char) : Bool :=
  ranges.any fun range =>
    Nat.ble range.1 c.toNat && Nat.ble c.toNat range.2

theorem covers_iff (ranges : CodeRanges) (c : Char) :
    ranges.covers c = true ↔
      ∃ range ∈ ranges, range.1 ≤ c.toNat ∧ c.toNat ≤ range.2 := by
  simp [covers]

end CodeRanges
end ObfuscationMap
