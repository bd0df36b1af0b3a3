import SyntaxExplorer.Text.Bytes

/-! Cutting a text at a byte offset and joining it again are inverse.
The bytes of a text split at an offset exactly where its characters do.
-/

namespace SyntaxExplorer.Text

/-- Byte lengths add up, by induction over the first part. -/
@[simp]
theorem byteLength_append (left right : List Char)
    : byteLength (left ++ right) = byteLength left + byteLength right := by
  induction left with
  | nil => simp [byteLength]
  | cons c rest ih => simp [byteLength, ih, Nat.add_assoc]

/-- A line feed is a single byte. -/
@[simp]
theorem utf8Size_lineFeed : '\n'.utf8Size = 1 := by
  decide

/-- Characters fill at least one byte, so only no characters fill none. -/
theorem byteLength_eq_zero_iff {chars : List Char} : byteLength chars = 0 ↔ chars = [] := by
  cases chars with
  | nil => simp [byteLength]
  | cons c rest =>
      have positive := c.utf8Size_pos
      simp [byteLength]
      omega

/-- A cut at an offset gives two parts of the text, of which the first has that many bytes.
Witness: the recursion of the cut; a character that does not fit has no such first part.
-/
theorem splitAt?_eq_some_iff {chars before after : List Char} {offset : Nat}
    : splitAt? chars offset = some (before, after)
      ↔ chars = before ++ after ∧ byteLength before = offset := by
  fun_induction splitAt? chars offset generalizing before with
  | case1 chars =>
      constructor
      · rintro ⟨⟩
        simp [byteLength]
      · rintro ⟨rfl, empty⟩
        simp [byteLength_eq_zero_iff.mp empty]
  | case2 offset =>
      simp only [reduceCtorEq, false_iff, not_and]
      intro whole
      obtain ⟨rfl, rfl⟩ := List.append_eq_nil_iff.mp whole.symm
      simp [byteLength]
  | case3 c rest offset fits ih =>
      simp only [Option.map_eq_some_iff, Prod.mk.injEq, Prod.exists]
      constructor
      · rintro ⟨first, _, cut, rfl, rfl⟩
        obtain ⟨rfl, length⟩ := ih.mp cut
        exact ⟨rfl, by simp only [byteLength]; omega⟩
      · rintro ⟨whole, length⟩
        cases before with
        | nil => simp [byteLength] at length
        | cons head first =>
            obtain ⟨rfl, rest⟩ := List.cons.inj whole
            simp only [byteLength] at length
            exact ⟨first, after, ih.mpr ⟨rest, by omega⟩, rfl, rfl⟩
  | case4 c rest offset tooLong =>
      simp only [reduceCtorEq, false_iff, not_and]
      intro whole length
      cases before with
      | nil => simp [byteLength] at length
      | cons head first =>
          obtain ⟨rfl, -⟩ := List.cons.inj whole
          simp only [byteLength] at length
          omega

/-- A part of some characters ends at a boundary. -/
theorem isBoundary_append (before after : List Char)
    : isBoundary (before ++ after) (byteLength before) = true := by
  rw [isBoundary, splitAt?_eq_some_iff.mpr ⟨rfl, rfl⟩]
  rfl

/-- Boundaries lie within the characters. -/
theorem le_of_isBoundary {chars : List Char} {offset : Nat}
    (boundary : isBoundary chars offset = true)
    : offset ≤ byteLength chars := by
  obtain ⟨⟨before, after⟩, split⟩ := Option.isSome_iff_exists.mp boundary
  obtain ⟨rfl, rfl⟩ := splitAt?_eq_some_iff.mp split
  rw [byteLength_append]
  exact Nat.le_add_right _ _

/-- What is left of a text from an offset on is what stands behind that many bytes. -/
theorem dropBytes?_eq_some_iff {text : String} {offset : Nat} {rest : List Char}
    : dropBytes? text offset = some rest
      ↔ ∃ before, text.toList = before ++ rest ∧ byteLength before = offset := by
  simp only [dropBytes?, Option.map_eq_some_iff, Prod.exists, splitAt?_eq_some_iff]
  constructor
  · rintro ⟨before, _, split, rfl⟩
    exact ⟨before, split⟩
  · rintro ⟨before, split⟩
    exact ⟨before, rest, split, rfl⟩

/-- Something is left of a text from an offset on exactly if the offset is a boundary. -/
theorem dropBytes?_eq_none_iff {text : String} {offset : Nat}
    : dropBytes? text offset = none ↔ isBoundary text.toList offset = false := by
  rw [dropBytes?, Option.map_eq_none_iff, isBoundary, Option.isSome_eq_false_iff,
    Option.isNone_iff_eq_none]

/-- The slice of a text between two boundaries is what stands there. -/
theorem slice?_of_append {text : String} {before within after : List Char}
    (whole : text.toList = before ++ within ++ after)
    : slice? text (byteLength before) (byteLength (before ++ within))
      = some (String.ofList within) := by
  have first : splitAt? text.toList (byteLength before) = some (before, within ++ after) :=
    splitAt?_eq_some_iff.mpr ⟨by rw [whole, List.append_assoc], rfl⟩
  have second : splitAt? (within ++ after) (byteLength within) = some (within, after) :=
    splitAt?_eq_some_iff.mpr ⟨rfl, rfl⟩
  simp [slice?, first, second]

/-- The bytes of a text in UTF-8. -/
def bytes (text : String) : List UInt8 := text.toUTF8.data.toList

/-- The bytes of a text are those of its characters, one after another. -/
theorem bytes_eq_flatMap (text : String)
    : bytes text = text.toList.flatMap String.utf8EncodeChar := by
  rw [bytes, String.toUTF8_eq_toByteArray, ← String.utf8Encode_toList]
  simp [List.utf8Encode]

/-- Characters have as many bytes as their lengths say, by induction over them. -/
theorem length_encode (chars : List Char)
    : (chars.flatMap String.utf8EncodeChar).length = byteLength chars := by
  induction chars with
  | nil => rfl
  | cons c rest ih => simp [byteLength, ← ih]

/-- What bytes a text has determines it, so splices of bytes say all about a text. -/
theorem bytes_inj {left right : String} (same : bytes left = bytes right) : left = right := by
  apply String.toByteArray_inj.mp
  exact ByteArray.ext (Array.ext' same)

/-- A text is what its bytes are. -/
theorem ofBytes?_bytes (text : String) : ofBytes? (bytes text) = some text := by
  rw [ofBytes?, bytes, Array.toArray_toList, String.fromUTF8?]
  exact dif_pos text.isValidUTF8

end SyntaxExplorer.Text
