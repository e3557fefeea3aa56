import ObfuscationMap.Text.Basic

/-!
# The order of texts

Texts are ordered by the code points of their characters, a beginning of a text
coming before the text. Sorted lines are in this order.
-/

namespace ObfuscationMap
namespace Text

/-- Whether a text comes before another or is the same. -/
def atMost : Text -> Text -> Bool
  | [], _ => true
  | _ :: _, [] => false
  | c :: left, d :: right =>
      if c = d then atMost left right else Nat.blt c.toNat d.toNat

/-- The given texts in order. -/
def sorted (texts : List Text) : List Text :=
  texts.mergeSort atMost

theorem atMost_total (left right : Text) :
    (atMost left right || atMost right left) = true := by
  induction left generalizing right with
  | nil => simp [atMost]
  | cons c left step =>
      cases right with
      | nil => simp [atMost]
      | cons d right =>
          by_cases same : c = d
          · subst same
            simpa [atMost] using step right
          · have differ : c.toNat ≠ d.toNat := fun equal =>
              same (Char.ext (UInt32.toNat_inj.1 equal))
            simp only [atMost, same, Ne.symm same, if_false, Nat.blt_eq, Bool.or_eq_true]
            omega

theorem atMost_trans
    (first second third : Text)
    (low : atMost first second = true)
    (high : atMost second third = true) :
    atMost first third = true := by
  induction first generalizing second third with
  | nil => simp [atMost]
  | cons c first step =>
      cases second with
      | nil => simp [atMost] at low
      | cons d second =>
          cases third with
          | nil => simp [atMost] at high
          | cons e third =>
              simp only [atMost] at low high ⊢
              by_cases lowSame : c = d
              · subst lowSame
                by_cases highSame : c = e
                · subst highSame
                  simp only [if_true] at low high ⊢
                  exact step second third low high
                · simpa [highSame] using high
              · by_cases highSame : d = e
                · subst highSame
                  simpa [lowSame] using low
                · simp only [lowSame, highSame, if_false, Nat.blt_eq] at low high
                  have apart : c ≠ e := by
                    rintro rfl
                    omega
                  simp only [apart, if_false, Nat.blt_eq]
                  omega

/-- Sorting puts the texts in order. -/
theorem pairwise_sorted (texts : List Text) :
    (sorted texts).Pairwise fun left right => atMost left right = true :=
  List.pairwise_mergeSort atMost_trans atMost_total texts

/-- Sorting keeps the texts. -/
theorem sorted_perm (texts : List Text) : (sorted texts).Perm texts :=
  List.mergeSort_perm texts atMost

end Text
end ObfuscationMap
