import ObfuscationMap.Text.Basic

/-!
# White space and words

The white space of lines is the set of characters with the property
`White_Space`: tab to carriage return, the space, the next-line character and
the wider spaces of the general punctuation. Lines are trimmed of it at both
ends and split into words at every run of it.
-/

namespace ObfuscationMap
namespace Text

/-- The code points with the property `White_Space`. -/
def blankRanges : CodeRanges :=
  [(0x9, 0xd), (0x20, 0x20), (0x85, 0x85), (0xa0, 0xa0), (0x1680, 0x1680),
    (0x2000, 0x200a), (0x2028, 0x2029), (0x202f, 0x202f), (0x205f, 0x205f),
    (0x3000, 0x3000)]

/-- Whether a character is white space. -/
def isBlank (c : Char) : Bool :=
  blankRanges.covers c

/-- Drop the white space at the end. -/
def trimEnd (text : Text) : Text :=
  text.foldr
    (fun c rest => if rest.isEmpty && isBlank c then [] else c :: rest) []

/-- Drop the white space at both ends. -/
def trim (text : Text) : Text :=
  trimEnd (text.dropWhile isBlank)

/-- The maximal runs of characters that are not white space, in order. -/
def words (text : Text) : List Text :=
  (text.splitOnP isBlank).filter fun piece => !piece.isEmpty

/-- Core's white space is white space here too. -/
theorem isBlank_of_isWhitespace
    (c : Char)
    (white : c.isWhitespace = true) :
    isBlank c = true := by
  simp only [Char.isWhitespace, Bool.or_eq_true,
    decide_eq_true_eq] at white
  rcases white with ((rfl | rfl) | rfl) | rfl <;> decide

end Text
end ObfuscationMap
