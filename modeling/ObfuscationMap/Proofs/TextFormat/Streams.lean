import ObfuscationMap.Proofs.Text.Decoding
import ObfuscationMap.Proofs.TextFormat.Processing

/-!
# Streams of bytes

A stream is decoded line by line while it is read. Where its bytes encode a text, this is
reading the text. Otherwise the lines before the first that cannot be decoded make up a text,
and the stream is refused as that text is, or else because it cannot be decoded.
-/

namespace ObfuscationMap
namespace TextFormat

variable {format : TextFormat}

/-- Decoded lines are taken before what follows them. -/
theorem takeLines_map_some_append
    (number : Nat)
    (draft : Draft)
    (lines : List Text)
    (others : List (Option Text)) :
    format.takeLines number draft (lines.map some ++ others) =
      (format.takeLines number draft (lines.map some)).bind fun left =>
        format.takeLines (number + lines.length) left others := by
  induction lines generalizing number draft with
  | nil => rfl
  | cons line rest step =>
      rw [List.map_cons, List.cons_append, takeLines, takeLines]
      cases format.takeLine draft line with
      | error cause => rfl
      | ok left =>
          simp only
          rw [step, List.length_cons, Nat.add_assoc, Nat.add_comm 1]

/-- Lines before one that cannot be decoded are refused as they are on their own. -/
theorem readDecoded_append_none (lines : List Text) (others : List (Option Text)) :
    format.readDecoded (lines.map some ++ none :: others) =
      (format.readLines lines).bind fun _ => .error .undecodable := by
  rw [readDecoded, takeLines_map_some_append, readLines, readDecoded]
  cases format.takeLines 1 .empty (lines.map some) <;> rfl

/-- Bytes are read as the text that they encode. If they encode none, they are read up to the
first line that encodes none: what is refused is the first malformed line before it, as in a
text, or else the encoding of that line. -/
theorem readBytes_lineByLine (format : TextFormat) (bytes : List UInt8) :
    (∀ text, Text.decode? bytes = some text -> format.readBytes bytes = format.readText text) ∧
    (Text.decode? bytes = none ->
      ∃ earlier broken later before, bytes.splitOn 10 = earlier ++ broken :: later ∧
        (∀ line ∈ earlier, Text.decode? line ≠ none) ∧
        Text.decode? broken = none ∧
        Text.decode? (earlier.flatMap fun line => line ++ [10]) = some before ∧
        ((∀ line ∈ Text.lines before, format.lineRefusal? line = none) ->
          format.readBytes bytes = .error .undecodable) ∧
        (∀ first line rest cause, Text.lines before = first ++ line :: rest ->
          (∀ other ∈ first, format.lineRefusal? other = none) ->
          format.lineRefusal? line = some cause ->
          format.readBytes bytes =
            .error (.refused { number := first.length + 1, line, cause }))) := by
  constructor
  · intro text decoded
    obtain rfl := Text.decode?_eq_some_iff.1 decoded
    rw [readBytes, Text.decodedLines_utf8, readText, readLines]
  · intro undecodable
    obtain ⟨earlier, broken, later, split, intact, none⟩ :=
      Text.exists_first_undecodable undecodable
    obtain ⟨before, others, front, decoded⟩ := Text.exists_decodedLines_eq split intact none
    refine ⟨earlier, broken, later, before, split, intact, none, front, ?_, ?_⟩
    · intro read
      simp only [lineRefusal?_eq_none_iff] at read
      have whole := readLines_eq_ok_iff.2 ⟨read, rfl⟩
      rw [readBytes, decoded, readDecoded_append_none, whole, Except.bind]
    · intro first line rest cause lines read refused
      simp only [lineRefusal?_eq_none_iff] at read
      rw [lineRefusal?_eq_some_iff] at refused
      have stopped := readLines_eq_error_iff.2 ⟨first, line, rest, cause, lines, read, refused, rfl⟩
      rw [readBytes, decoded, readDecoded_append_none, stopped, Except.bind, Nat.add_comm 1]

/-- A malformed line is reported before the bytes after it are decoded. -/
example : srg.readBytes (Text.utf8 "CL: a b\r\nXX: c\r\n".toList ++ [255]) =
    .error (.refused {
      number := 2
      line := "XX: c".toList
      cause := .unrecognizedRecord "XX:".toList }) := by
  rfl

end TextFormat
end ObfuscationMap
