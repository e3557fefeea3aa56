import Mathlib.Tactic.SplitIfs
import ObfuscationMap.Text.Order

/-!
# The order of encoded texts

Texts are ordered by their code points. The encoding UTF-8 keeps this order: the bytes of
one text come before the bytes of another, as sequences of unsigned bytes, exactly if the
one text comes before the other.
-/

namespace ObfuscationMap
namespace Text

/-- The bytes of a text in the encoding UTF-8. -/
def utf8 (text : Text) : List UInt8 :=
  text.flatMap String.utf8EncodeChar

/-- A text comes before another. -/
def Before (left right : Text) : Prop :=
  atMost left right = true ∧ left ≠ right

theorem atMost_antisymm
    {left right : Text}
    (low : atMost left right = true)
    (high : atMost right left = true) :
    left = right := by
  induction left generalizing right with
  | nil =>
      cases right with
      | nil => rfl
      | cons d right => cases high
  | cons c left step =>
      cases right with
      | nil => cases low
      | cons d right =>
          rw [atMost] at low high
          by_cases same : c = d
          · subst same
            rw [if_pos rfl] at low high
            rw [step low high]
          · rw [if_neg same, Nat.blt_eq] at low
            rw [if_neg (Ne.symm same), Nat.blt_eq] at high
            omega

theorem not_before_self (text : Text) : ¬Before text text :=
  fun before => before.2 rfl

theorem before_nil_cons (d : Char) (right : Text) : Before [] (d :: right) :=
  ⟨rfl, (List.cons_ne_nil d right).symm⟩

theorem not_before_nil (left : Text) : ¬Before left [] := by
  rintro ⟨low, different⟩
  exact different (atMost_antisymm low (by rw [atMost]))

/-- The first difference of two texts decides which of them comes before the other. -/
theorem before_cons_iff {c d : Char} {left right : Text} :
    Before (c :: left) (d :: right) ↔ c.toNat < d.toNat ∨ c = d ∧ Before left right := by
  rw [Before, Before, atMost]
  by_cases same : c = d
  · subst same
    simp
  · simp [same]

theorem before_or_eq_or_before (left right : Text) :
    Before left right ∨ left = right ∨ Before right left := by
  by_cases same : left = right
  · exact .inr (.inl same)
  · have total := atMost_total left right
    rw [Bool.or_eq_true] at total
    rcases total with low | high
    · exact .inl ⟨low, same⟩
    · exact .inr (.inr ⟨high, Ne.symm same⟩)

/-- Sorting leaves nothing of the order in which the texts were given. -/
theorem sorted_eq_sorted_iff {left right : List Text} :
    sorted left = sorted right ↔ left.Perm right := by
  constructor
  · intro same
    have right := same ▸ sorted_perm right
    exact (sorted_perm left).symm.trans right
  · intro permuted
    have sortedPermuted := (sorted_perm left).trans (permuted.trans (sorted_perm right).symm)
    exact sortedPermuted.eq_of_pairwise (fun _ _ _ _ => atMost_antisymm) (pairwise_sorted left)
      (pairwise_sorted right)

/-! ## Words -/

/-- All characters of a text come after the space. -/
def IsAboveSpace (text : Text) : Prop :=
  ∀ c ∈ text, ' '.toNat < c.toNat

theorem IsAboveSpace.append
    {left right : Text}
    (leftAbove : left.IsAboveSpace)
    (rightAbove : right.IsAboveSpace) :
    IsAboveSpace (left ++ right) :=
  fun c cIn => (List.mem_append.1 cIn).elim (leftAbove c) (rightAbove c)

/-- A space ends a word before any character of a longer word does, so words decide from the
left on. -/
theorem before_append_space_iff
    {left right leftRest rightRest : Text}
    (leftAbove : left.IsAboveSpace)
    (rightAbove : right.IsAboveSpace) :
    Before (left ++ ' ' :: leftRest) (right ++ ' ' :: rightRest) ↔
      Before left right ∨ left = right ∧ Before leftRest rightRest := by
  induction left generalizing right with
  | nil =>
      cases right with
      | nil => simp [before_cons_iff, not_before_self]
      | cons d right =>
          have above := rightAbove d List.mem_cons_self
          exact iff_of_true (before_cons_iff.2 (.inl above)) (.inl (before_nil_cons d right))
  | cons c left step =>
      have above := leftAbove c List.mem_cons_self
      cases right with
      | nil =>
          refine iff_of_false ?_ ?_
          · rw [List.cons_append, List.nil_append, before_cons_iff]
            rintro (earlier | ⟨rfl, -⟩)
            · exact Nat.lt_asymm above earlier
            · exact Nat.lt_irrefl _ above
          · rintro (before | ⟨missing, -⟩)
            · exact not_before_nil _ before
            · cases missing
      | cons d right =>
          have later := step (fun c cIn => leftAbove c (List.mem_cons_of_mem _ cIn))
            (fun d dIn => rightAbove d (List.mem_cons_of_mem _ dIn))
          simp only [List.cons_append, before_cons_iff, later, List.cons.injEq, and_or_left,
            or_assoc, and_assoc]

theorem before_intercalate_iff
    {left right leftNext rightNext : Text}
    {leftRest rightRest : List Text}
    (leftAbove : left.IsAboveSpace)
    (rightAbove : right.IsAboveSpace) :
    Before ([' '].intercalate (left :: leftNext :: leftRest))
        ([' '].intercalate (right :: rightNext :: rightRest)) ↔
      Before left right ∨ left = right ∧
        Before ([' '].intercalate (leftNext :: leftRest))
          ([' '].intercalate (rightNext :: rightRest)) := by
  rw [List.intercalate_cons_cons, List.intercalate_cons_cons, List.append_assoc,
    List.append_assoc, List.singleton_append, List.singleton_append,
    before_append_space_iff leftAbove rightAbove]

/-! ## Bytes -/

theorem byte_cons_lt_iff
    {m n : Nat}
    (mBound : m < 256)
    (nBound : n < 256)
    {left right : List UInt8} :
    UInt8.ofNat m :: left < UInt8.ofNat n :: right ↔ m < n ∨ m = n ∧ left < right := by
  rw [List.cons_lt_cons_iff, UInt8.lt_iff_toNat_lt, ← UInt8.toNat_inj,
    UInt8.toNat_ofNat_of_lt' mBound, UInt8.toNat_ofNat_of_lt' nBound]

/-- Numbers are compared by their digits to the base 64, from the highest on. -/
theorem digits_lt {m n : Nat} (less : m < n) :
    m / 262144 < n / 262144 ∨ m / 262144 = n / 262144 ∧
      (m / 4096 % 64 < n / 4096 % 64 ∨ m / 4096 % 64 = n / 4096 % 64 ∧
        (m / 64 % 64 < n / 64 % 64 ∨ m / 64 % 64 = n / 64 % 64 ∧ m % 64 < n % 64)) := by
  have step : ∀ k l : Nat, k < l -> k / 64 < l / 64 ∨ k / 64 = l / 64 ∧ k % 64 < l % 64 := by
    omega
  have regroup : ∀ k : Nat, k / 4096 = k / 64 / 64 ∧ k / 262144 = k / 64 / 64 / 64 := by
    omega
  simp only [(regroup _).1, (regroup _).2]
  rcases step m n less with high | ⟨high, low⟩
  · rcases step _ _ high with higher | ⟨higher, middle⟩
    · rcases step _ _ higher with highest | ⟨highest, upper⟩
      · exact .inl highest
      · exact .inr ⟨highest, .inl upper⟩
    · rw [higher]
      exact .inr ⟨rfl, .inr ⟨rfl, .inl middle⟩⟩
  · rw [high]
    exact .inr ⟨rfl, .inr ⟨rfl, .inr ⟨rfl, low⟩⟩⟩

/-- The bytes of a character come before those of every later character, whatever
follows. -/
theorem utf8EncodeChar_append_lt
    {c d : Char}
    (earlier : c.toNat < d.toNat)
    (left right : List UInt8) :
    String.utf8EncodeChar c ++ left < String.utf8EncodeChar d ++ right := by
  have bound : d.toNat < 1114112 := by
    rcases d.valid with low | high
    · exact Nat.lt_trans low (by decide)
    · exact high.2
  have top : ∀ k < 1114112, k / 262144 % 8 = k / 262144 := by omega
  have digits := digits_lt earlier
  rw [String.utf8EncodeChar, String.utf8EncodeChar]
  simp only [Char.toNat] at earlier bound digits ⊢
  generalize c.val.toNat = m at *
  generalize d.val.toNat = n at *
  -- Of two lengths the smaller has the smaller first byte; with one length the digits decide.
  split_ifs <;>
    simp (disch := omega) only [List.cons_append, List.nil_append, byte_cons_lt_iff, top] <;>
    omega

theorem utf8_cons (c : Char) (text : Text) :
    utf8 (c :: text) = String.utf8EncodeChar c ++ utf8 text := rfl

theorem utf8_lt_of_before
    {left right : Text}
    (before : Before left right) :
    utf8 left < utf8 right := by
  induction left generalizing right with
  | nil =>
      cases right with
      | nil => exact absurd rfl before.2
      | cons d right =>
          have some : utf8 (d :: right) ≠ [] := by
            rw [utf8_cons]
            exact List.append_ne_nil_of_left_ne_nil String.utf8EncodeChar_ne_nil _
          obtain ⟨first, rest, split⟩ := List.exists_cons_of_ne_nil some
          rw [split]
          exact List.nil_lt_cons first rest
  | cons c left step =>
      cases right with
      | nil => cases before.1
      | cons d right =>
          rw [utf8_cons, utf8_cons]
          rcases before_cons_iff.1 before with earlier | ⟨rfl, later⟩
          · exact utf8EncodeChar_append_lt earlier _ _
          · exact List.append_left_lt (step later)

/-- The order of texts is the order of their bytes. -/
theorem utf8_lt_iff {left right : Text} : utf8 left < utf8 right ↔ Before left right := by
  refine ⟨fun less => ?_, utf8_lt_of_before⟩
  rcases before_or_eq_or_before left right with before | rfl | after
  · exact before
  · exact absurd less (List.lt_irrefl _)
  · exact absurd less (List.lt_asymm (utf8_lt_of_before after))

end Text
end ObfuscationMap
