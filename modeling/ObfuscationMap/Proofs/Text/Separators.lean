import ObfuscationMap.Text.Basic

/-!
# Dots and slashes

Dots become slashes and slashes become dots. Of a text with slashes for dots, every other
character shows what stands in the text itself, and its parts are those of the text.
-/

namespace ObfuscationMap
namespace Text

/-- What is put back before it is replaced does not show. -/
theorem replace_replace (old new : Char) (text : Text) :
    (text.replace new old).replace old new = text.replace old new := by
  rw [replace, replace, replace, List.map_map]
  apply List.map_congr_left
  intro c _
  by_cases same : c = new
  · simp [same]
  · simp [same]

theorem replace_of_not_mem
    {old : Char}
    {text : Text}
    (absent : old ∉ text)
    (new : Char) :
    text.replace old new = text := by
  have kept : ∀ c ∈ text, (if c = old then new else c) = id c := by
    intro c cIn
    rw [if_neg (by rintro rfl; exact absent cIn), id]
  rw [replace, List.map_congr_left kept, List.map_id]

theorem not_mem_of_replace
    {old new : Char}
    {text : Text}
    (absent : new ∉ text.replace old new) :
    old ∉ text :=
  fun oldIn => absent (List.mem_map.2 ⟨old, oldIn, if_pos rfl⟩)

/-- Dots that stand for slashes do not show in an internal name. -/
theorem slashed_dotted (text : Text) : text.dotted.slashed = text.slashed :=
  replace_replace '.' '/' text

/-- Slashes that stand for dots do not show in a dotted name. -/
theorem dotted_slashed (text : Text) : text.slashed.dotted = text.dotted :=
  replace_replace '/' '.' text

@[simp] theorem slashed_slashed (text : Text) : text.slashed.slashed = text.slashed := by
  rw [← slashed_dotted text.slashed, dotted_slashed, slashed_dotted]

theorem slash_not_mem_of_dotted {text : Text} (plain : '.' ∉ text.dotted) : '/' ∉ text :=
  not_mem_of_replace plain

theorem dotted_of_not_mem {text : Text} (plain : '/' ∉ text) : text.dotted = text :=
  replace_of_not_mem plain '.'

theorem takeWhile_dotted (text : Text) :
    text.dotted.takeWhile (· ≠ '[') = dotted (text.takeWhile (· ≠ '[')) := by
  have same : (fun c => decide (c ≠ '[')) ∘ (fun c => if c = '/' then '.' else c) =
      fun c => decide (c ≠ '[') := by
    funext c
    by_cases slash : c = '/' <;> simp [slash]
  rw [dotted, dotted, replace, replace, List.takeWhile_map, same]

theorem mem_slashed_of_mem {text : Text} {c : Char} (noDot : c ≠ '.') (cIn : c ∈ text) :
    c ∈ text.slashed :=
  List.mem_map.2 ⟨c, cIn, if_neg noDot⟩

/-- What has no slashes after dots have become slashes had no dots before. -/
theorem eq_of_slashed_eq
    {text other : Text}
    (same : text.slashed = other)
    (plain : '/' ∉ other) :
    text = other := by
  have noDot : '.' ∉ text := not_mem_of_replace (same ▸ plain)
  rw [← same, slashed, replace_of_not_mem noDot]

/-- Parts of a text with slashes for dots are parts of the text. -/
theorem exists_append_of_slashed_eq
    {text left right : Text}
    (same : text.slashed = left ++ right) :
    ∃ before after : Text,
      text = before ++ after ∧ before.slashed = left ∧ after.slashed = right :=
  List.map_eq_append_iff.1 same

/-- A first character other than a slash is the first character of the text. -/
theorem exists_cons_of_slashed_eq
    {text rest : Text}
    {c : Char}
    (noSlash : c ≠ '/')
    (same : text.slashed = c :: rest) :
    ∃ after : Text, text = c :: after ∧ after.slashed = rest := by
  have split : text.slashed = [c] ++ rest := same
  obtain ⟨first, after, rfl, firstSame, afterSame⟩ := exists_append_of_slashed_eq split
  have plain : '/' ∉ [c] := by simpa using noSlash.symm
  exact ⟨after, by rw [eq_of_slashed_eq firstSame plain, List.singleton_append], afterSame⟩

end Text
end ObfuscationMap
