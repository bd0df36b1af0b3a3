import SyntaxExplorer.Proofs.Text.Boundaries
import SyntaxExplorer.Text.Extent
import SyntaxExplorer.Text.LineIndex

/-! The line index of a text finds the point that reading the text up to an offset reaches.
The point is read off the characters themselves, without any table of lines.
-/

namespace SyntaxExplorer

open Text

/-- The point behind a character that stands at a point. -/
def Point.advance (point : Point) (c : Char) : Point :=
  if c = '\n' then ⟨point.row + 1, 0⟩ else ⟨point.row, point.column + c.utf8Size⟩

/-- A point is not before another exactly if it has a later row, or the same row and no earlier
column.
-/
theorem Point.isBefore_eq_false_iff {left right : Point}
    : left.isBefore right = false
      ↔ right.row ≤ left.row ∧ (right.row = left.row → right.column ≤ left.column) := by
  simp only [isBefore, Bool.or_eq_false_iff, Bool.and_eq_false_iff, decide_eq_false_iff_not,
    beq_eq_false_iff_ne]
  omega

/-- Reading on never leads back, by induction over the characters. -/
theorem Point.foldl_advance_not_before (chars : List Char) (point : Point)
    : (chars.foldl advance point).isBefore point = false := by
  rw [isBefore_eq_false_iff]
  induction chars generalizing point with
  | nil => simp
  | cons c rest ih =>
      have next := ih (point.advance c)
      rw [List.foldl_cons]
      by_cases feed : c = '\n'
      · simp only [advance, if_pos feed] at next ⊢
        omega
      · simp only [advance, if_neg feed] at next ⊢
        omega

/-- The extent that some characters fill from the start of a text. -/
def Extent.ofChars (chars : List Char) : Extent :=
  ⟨byteLength chars, chars.foldl Point.advance .origin⟩

/-- Finding an offset from within a row reads the characters up to it.
Witness: induction over the characters before the offset; a line feed starts the next row.
-/
theorem LineIndex.locate_ofChars_append (before after : List Char) (row column : Nat)
    : let lines := ofChars (before ++ after)
      locate row (column + byteLength before) (column + lines.first) lines.rest
        = before.foldl Point.advance ⟨row, column⟩ := by
  intro lines
  induction before generalizing row column with
  | nil =>
      simp only [byteLength, Nat.add_zero, List.foldl_nil]
      cases lines.rest with
      | nil => simp [locate]
      | cons next rest => simp [locate]
  | cons c before ih =>
      by_cases feed : c = '\n'
      · have next := ih (row + 1) 0
        simp only [Nat.zero_add] at next
        have beyond : ¬ column + ('\n'.utf8Size + byteLength before) ≤ column + 0 := by
          have positive := '\n'.utf8Size_pos
          omega
        have skipped : column + ('\n'.utf8Size + byteLength before) - (column + 0) - 1
            = byteLength before := by
          have single : '\n'.utf8Size = 1 := by decide
          omega
        simp only [lines, feed, List.cons_append, ofChars, if_true, byteLength, locate,
          if_neg beyond, skipped, List.foldl_cons, Point.advance]
        exact next
      · have next := ih row (column + c.utf8Size)
        simp only [lines, List.cons_append, ofChars, if_neg feed, byteLength, List.foldl_cons,
          Point.advance]
        rw [← next]
        congr 1 <;> omega

/-- Each boundary of a text has the position that the characters before it reach. -/
theorem LineIndex.positionAt_ofChars_append (before after : List Char)
    : (ofChars (before ++ after)).positionAt (byteLength before)
      = (Extent.ofChars before).point := by
  have located := locate_ofChars_append before after 0 0
  simpa only [Nat.zero_add, positionAt, Extent.ofChars, Point.origin] using located

/-- A boundary of a text splits it into extents with the position from its line index. -/
theorem LineIndex.positionAt_eq_point {text : String} {before after : List Char}
    (whole : text.toList = before ++ after)
    : (ofText text).positionAt (byteLength before) = (Extent.ofChars before).point := by
  rw [ofText, whole]
  exact positionAt_ofChars_append before after

end SyntaxExplorer
