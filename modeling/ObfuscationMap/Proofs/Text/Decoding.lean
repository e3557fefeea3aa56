import Mathlib.Data.List.Basic
import ObfuscationMap.Proofs.Text.EncodedOrder
import ObfuscationMap.Text.Lines

/-!
# Decoding line by line

The bytes of the line feed and of the carriage return stand for these characters alone, so
an encoded text has the encoded lines of the text. Bytes that encode no text have a line
that encodes none, and what stands before the first such line is a text of whole lines.
-/

namespace ObfuscationMap
namespace Text

/-! ## Texts and their bytes -/

/-- Bytes are decoded as the text that they encode. -/
theorem decode?_eq_some_iff {bytes : List UInt8} {text : Text} :
    decode? bytes = some text ↔ utf8 text = bytes := by
  have encoded : ∀ other : Text, other.utf8Encode = ⟨⟨bytes⟩⟩ ↔ utf8 other = bytes := by
    intro other
    rw [List.utf8Encode, ByteArray.ext_iff, List.data_toByteArray, ← Array.toList_inj]
    rfl
  rw [decode?, String.fromUTF8?]
  split
  · next valid =>
      rw [Option.map_some, Option.some.injEq, ← encoded]
      constructor
      · rintro rfl
        exact String.utf8Encode_toList
      · intro same
        have whole : String.fromUTF8 ⟨⟨bytes⟩⟩ valid = String.ofList text :=
          String.toByteArray_inj.1 same.symm
        rw [whole, String.toList_ofList]
  · next invalid =>
      exact iff_of_false (by simp) fun same => invalid ⟨text, ((encoded text).2 same).symm⟩

@[simp] theorem decode?_utf8 (text : Text) : decode? (utf8 text) = some text :=
  decode?_eq_some_iff.2 rfl

theorem utf8_singleton (c : Char) : utf8 [c] = String.utf8EncodeChar c := by
  rw [utf8_cons, utf8, List.flatMap_nil, List.append_nil]

theorem utf8_append (left right : Text) : utf8 (left ++ right) = utf8 left ++ utf8 right :=
  List.flatMap_append

/-- A byte of seven bits among the bytes of a character is all of them. -/
theorem utf8EncodeChar_eq_singleton
    {c : Char}
    {byte : UInt8}
    (low : byte.toNat < 128)
    (byteIn : byte ∈ String.utf8EncodeChar c) :
    String.utf8EncodeChar c = [byte] := by
  have bound : c.val.toNat < 1114112 := by
    rcases c.valid with before | after
    · exact Nat.lt_trans before (by decide)
    · exact after.2
  have high : ∀ k, 128 ≤ k -> k < 256 -> byte ≠ UInt8.ofNat k := by
    rintro k large small rfl
    rw [UInt8.toNat_ofNat_of_lt' small] at low
    exact absurd low (Nat.not_lt_of_le large)
  rw [String.utf8EncodeChar] at byteIn ⊢
  generalize c.val.toNat = m at *
  -- Every byte of a longer encoding has its highest bit set.
  split_ifs at byteIn ⊢ <;> simp only [List.mem_cons, List.not_mem_nil, or_false] at byteIn
  · rw [byteIn]
  · rcases byteIn with same | same
    all_goals exact absurd same (high _ (by omega) (by omega))
  · rcases byteIn with same | same | same
    all_goals exact absurd same (high _ (by omega) (by omega))
  · rcases byteIn with same | same | same | same
    all_goals exact absurd same (high _ (by omega) (by omega))

/-- Of a character of seven bits, its byte stands for nothing else. -/
theorem eq_of_mem_utf8EncodeChar
    {c d : Char}
    {byte : UInt8}
    (low : byte.toNat < 128)
    (encoded : String.utf8EncodeChar d = [byte])
    (byteIn : byte ∈ String.utf8EncodeChar c) :
    c = d := by
  have same : utf8 [c] = utf8 [d] := by
    rw [utf8_singleton, utf8_singleton, encoded, utf8EncodeChar_eq_singleton low byteIn]
  have decoded := decode?_utf8 [c]
  rw [same, decode?_utf8, Option.some.injEq] at decoded
  exact (List.cons.inj decoded).1.symm

/-- A character of seven bits occurs in a text where its byte does. -/
theorem mem_utf8_iff
    {c : Char}
    {byte : UInt8}
    (low : byte.toNat < 128)
    (encoded : String.utf8EncodeChar c = [byte])
    {text : Text} :
    byte ∈ utf8 text ↔ c ∈ text := by
  rw [utf8, List.mem_flatMap]
  constructor
  · rintro ⟨d, dIn, byteIn⟩
    rwa [← eq_of_mem_utf8EncodeChar low encoded byteIn]
  · intro cIn
    exact ⟨c, cIn, by rw [encoded, List.mem_singleton]⟩

/-! ## Lines -/

theorem utf8_feed : String.utf8EncodeChar '\n' = [10] := by decide

theorem utf8_carriage : String.utf8EncodeChar '\r' = [13] := by decide

theorem feed_mem_utf8_iff {text : Text} : 10 ∈ utf8 text ↔ '\n' ∈ text :=
  mem_utf8_iff (by decide) utf8_feed

theorem utf8_append_feed (line rest : Text) :
    utf8 (line ++ '\n' :: rest) = utf8 line ++ 10 :: utf8 rest := by
  rw [utf8_append, utf8_cons, utf8_feed, List.singleton_append]

/-- A line ends in a carriage return where its bytes do. -/
theorem dropCarriage_utf8 (line : Text) :
    dropCarriage 13 (utf8 line) = utf8 (dropCarriage '\r' line) := by
  rcases List.eq_nil_or_concat' line with rfl | ⟨front, c, rfl⟩
  · rfl
  · rw [utf8_append, utf8_singleton]
    by_cases same : c = '\r'
    · subst same
      rw [utf8_carriage, dropCarriage, dropCarriage, if_pos List.getLast?_concat,
        if_pos List.getLast?_concat, List.dropLast_concat, List.dropLast_concat]
    · have apart : (utf8 front ++ String.utf8EncodeChar c).getLast? ≠ some 13 := by
        rw [List.getLast?_append, ne_eq, Option.or_eq_some_iff, List.getLast?_eq_none_iff]
        rintro (last | ⟨none, -⟩)
        · have byteIn := List.mem_of_getLast? last
          exact same (eq_of_mem_utf8EncodeChar (by decide) utf8_carriage byteIn)
        · exact String.utf8EncodeChar_ne_nil none
      have other : (front ++ [c]).getLast? ≠ some '\r' := by simp [same]
      rw [dropCarriage, dropCarriage, if_neg apart, if_neg other, utf8_append, utf8_singleton]

/-- The lines of an encoded text are the encoded lines of the text. -/
theorem byteLines_utf8 (text : Text) : byteLines (utf8 text) = (lines text).map utf8 := by
  induction size : text.length using Nat.strongRecOn generalizing text with
  | ind bound step =>
      by_cases feedIn : '\n' ∈ text
      · obtain ⟨line, rest, rfl, whole⟩ := List.eq_append_cons_of_mem feedIn
        have shorter : rest.length < bound := by
          rw [← size, List.length_append, List.length_cons]
          omega
        have later := step rest.length shorter rest rfl
        rw [byteLines, lines] at later ⊢
        rw [utf8_append_feed, splitLines_append_feed (mt feed_mem_utf8_iff.1 whole),
          splitLines_append_feed whole, dropCarriage_utf8, later, List.map_cons]
      · cases text with
        | nil => rfl
        | cons c rest =>
            have some : utf8 (c :: rest) ≠ [] := by
              rw [utf8_cons]
              exact List.append_ne_nil_of_left_ne_nil String.utf8EncodeChar_ne_nil _
            rw [byteLines, splitLines_of_not_mem (mt feed_mem_utf8_iff.1 feedIn) some, lines,
              splitLines_of_not_mem feedIn (List.cons_ne_nil c rest), List.map_singleton]

/-- An encoded text is decoded line by line. -/
theorem decodedLines_utf8 (text : Text) : decodedLines (utf8 text) = (lines text).map some := by
  rw [decodedLines, byteLines_utf8, List.map_map]
  exact List.map_congr_left fun line _ => decode?_utf8 line

/-! ## Lines that cannot be decoded -/

theorem not_mem_of_mem_splitOn
    {α : Type}
    [DecidableEq α]
    {separator : α}
    {items piece : List α}
    (pieceIn : piece ∈ items.splitOn separator) :
    separator ∉ piece := by
  rw [List.splitOn_eq_splitOnP] at pieceIn
  induction items generalizing piece with
  | nil =>
      rw [List.mem_singleton.1 pieceIn]
      exact List.not_mem_nil
  | cons item rest step =>
      obtain ⟨first, others, split⟩ :=
        List.exists_cons_of_ne_nil (List.splitOnP_ne_nil (· == separator) rest)
      rw [List.splitOnP_cons_eq_if_modifyHead, split] at pieceIn
      rw [split] at step
      split at pieceIn
      · rcases List.mem_cons.1 pieceIn with rfl | later
        · exact List.not_mem_nil
        · exact step later
      · next other =>
          rcases List.mem_cons.1 pieceIn with rfl | later
          · rw [List.mem_cons, not_or]
            exact ⟨fun same => other (beq_iff_eq.2 same.symm), step List.mem_cons_self⟩
          · exact step (List.mem_cons_of_mem _ later)

/-- Texts are encoded one by one, with line feeds between them. -/
theorem utf8_intercalate (texts : List Text) :
    utf8 (['\n'].intercalate texts) = [10].intercalate (texts.map utf8) := by
  induction texts with
  | nil => rfl
  | cons first rest step =>
      cases rest with
      | nil => rw [List.map_singleton, List.intercalate_singleton, List.intercalate_singleton]
      | cons second others =>
          rw [List.map_cons] at step ⊢
          rw [List.map_cons, List.intercalate_cons_cons, List.intercalate_cons_cons, utf8_append,
            utf8_append, utf8_singleton, utf8_feed, step]

/-- Bytes that cannot be decoded have a first line that cannot be decoded. -/
theorem exists_first_undecodable
    {bytes : List UInt8}
    (undecodable : decode? bytes = none) :
    ∃ earlier broken later, bytes.splitOn 10 = earlier ++ broken :: later ∧
      (∀ line ∈ earlier, decode? line ≠ none) ∧ decode? broken = none := by
  cases found : (bytes.splitOn 10).find? fun line => (decode? line).isNone with
  | some broken =>
      obtain ⟨none, earlier, later, split, intact⟩ := List.find?_eq_some_iff_append.1 found
      refine ⟨earlier, broken, later, split, fun line lineIn => ?_,
        Option.isNone_iff_eq_none.1 none⟩
      simpa [Option.isSome_iff_ne_none] using intact line lineIn
  | none =>
      -- The texts of the lines, put together, are a text that the bytes encode.
      have encoded : ∀ line ∈ bytes.splitOn 10, utf8 ((decode? line).getD []) = line := by
        intro line lineIn
        have some := List.find?_eq_none.1 found line lineIn
        rw [Option.isNone_iff_eq_none] at some
        obtain ⟨text, decoded⟩ := Option.ne_none_iff_exists'.1 some
        rw [decoded, Option.getD_some, decode?_eq_some_iff.1 decoded]
      have restored :
          (bytes.splitOn 10).map (utf8 ∘ fun line => (decode? line).getD []) = bytes.splitOn 10 :=
        (List.map_congr_left encoded).trans (List.map_id _)
      have whole := utf8_intercalate ((bytes.splitOn 10).map fun line => (decode? line).getD [])
      rw [List.map_map, restored, List.intercalate_splitOn] at whole
      rw [← whole, decode?_utf8] at undecodable
      cases undecodable

theorem decode?_dropCarriage
    {line : List UInt8}
    (undecodable : decode? line = none) :
    decode? (dropCarriage 13 line) = none := by
  rw [dropCarriage]
  split
  · next last =>
      obtain ⟨front, rfl⟩ := List.getLast?_eq_some_iff.1 last
      rw [List.dropLast_concat, Option.eq_none_iff_forall_ne_some]
      intro text decoded
      have whole := decode?_utf8 (text ++ ['\r'])
      rw [utf8_append, utf8_singleton, utf8_carriage, decode?_eq_some_iff.1 decoded,
        undecodable] at whole
      cases whole
  · exact undecodable

/-- Up to the first line that cannot be decoded, bytes are decoded as the text of the lines
before it. -/
theorem exists_decodedLines_eq
    {bytes broken : List UInt8}
    {earlier later : List (List UInt8)}
    (split : bytes.splitOn 10 = earlier ++ broken :: later)
    (intact : ∀ line ∈ earlier, decode? line ≠ none)
    (undecodable : decode? broken = none) :
    ∃ before others, decode? (earlier.flatMap fun line => line ++ [10]) = some before ∧
      decodedLines bytes = (lines before).map some ++ none :: others := by
  have whole : ∀ line ∈ earlier ++ broken :: later, 10 ∉ line := fun line lineIn =>
    not_mem_of_mem_splitOn (split ▸ lineIn)
  have joined : [10].intercalate (bytes.splitOn 10) = bytes := List.intercalate_splitOn 10
  rw [← joined, split]
  clear split joined
  simp only [decode?_eq_some_iff]
  induction earlier with
  | nil =>
      refine ⟨[], ?_⟩
      rw [List.nil_append] at whole ⊢
      have noFeed := whole broken List.mem_cons_self
      cases later with
      | nil =>
          have some : broken ≠ [] := by
            rintro rfl
            cases undecodable
          refine ⟨[], rfl, ?_⟩
          rw [List.intercalate_singleton, decodedLines, byteLines,
            splitLines_of_not_mem noFeed some, List.map_singleton, undecodable]
          rfl
      | cons next rest =>
          refine ⟨decodedLines ([10].intercalate (next :: rest)), rfl, ?_⟩
          rw [List.intercalate_cons_cons, List.append_assoc, List.singleton_append, decodedLines,
            byteLines, splitLines_append_feed noFeed, List.map_cons,
            decode?_dropCarriage undecodable]
          rfl
  | cons line earlier step =>
      obtain ⟨decodable, intact⟩ := List.forall_mem_cons.1 intact
      rw [List.cons_append, List.forall_mem_cons] at whole
      obtain ⟨before, others, front, decoded⟩ := step intact whole.2
      obtain ⟨text, textOf⟩ := Option.ne_none_iff_exists'.1 decodable
      obtain rfl := decode?_eq_some_iff.1 textOf
      refine ⟨text ++ '\n' :: before, others, ?_, ?_⟩
      · rw [utf8_append_feed, front, List.flatMap_cons, List.append_assoc, List.singleton_append]
      · have some : earlier ++ broken :: later ≠ [] :=
          List.append_ne_nil_of_right_ne_nil earlier (List.cons_ne_nil broken later)
        have shape : lines (text ++ '\n' :: before) = dropCarriage '\r' text :: lines before :=
          splitLines_append_feed (mt feed_mem_utf8_iff.2 whole.1) before
        rw [decodedLines, byteLines] at decoded ⊢
        rw [List.cons_append, List.intercalate_cons_of_ne_nil some, List.append_assoc,
          List.singleton_append, splitLines_append_feed whole.1, List.map_cons, decoded,
          dropCarriage_utf8, decode?_utf8, shape]
        rfl

end Text
end ObfuscationMap
