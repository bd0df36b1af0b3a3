import SyntaxExplorer.Proofs.Text.Positions

/-! Offsets and positions of a text correspond one to one, and in order.  The rows of a text are
spans of offsets, one behind the other with one offset between the end of a row and the start of the
next; an offset is located by the row that holds it.
-/

namespace SyntaxExplorer

/-- A position is before another exactly if its row is, or its column in the same row. -/
theorem Point.isBefore_iff {left right : Point}
    : left.isBefore right = true
      ↔ left.row < right.row ∨ left.row = right.row ∧ left.column < right.column := by
  simp [isBefore]

/-- Of two positions at most one is before the other. -/
theorem Point.isBefore_asymm {left right : Point} (order : left.isBefore right = true)
    : right.isBefore left = false := by
  rw [isBefore_iff] at order
  rw [isBefore_eq_false_iff]
  omega

/-- Of two different positions one is before the other. -/
theorem Point.isBefore_or_of_ne {left right : Point} (other : left ≠ right)
    : left.isBefore right = true ∨ right.isBefore left = true := by
  obtain ⟨row, column⟩ := left
  obtain ⟨row', column'⟩ := right
  have apart : row ≠ row' ∨ column ≠ column' := by
    refine Classical.or_iff_not_imp_left.mpr fun sameRow sameColumn => other ?_
    rw [Classical.not_not.mp sameRow, sameColumn]
  simp only [isBefore_iff]
  omega

namespace LineIndex

-----------------------------------------------------------------------------------------
-- Rows behind a row
-----------------------------------------------------------------------------------------

/-- Where the last row ends, counted from the start of an earlier row. -/
def endFrom (start length : Nat) : List Nat → Nat
  | [] => start + length
  | next :: rest => endFrom (start + length + 1) next rest

/-- The first row ends where the last one does or before, by induction over the lengths of the
others.
-/
theorem le_endFrom (start length : Nat) (rest : List Nat)
    : start + length ≤ endFrom start length rest := by
  induction rest generalizing start length with
  | nil => exact Nat.le_refl _
  | cons next rest ih =>
      have later := ih (start + length + 1) next
      rw [endFrom]
      omega

/-- Rows are there as long as their lengths are, by induction over these. -/
theorem spanFrom_eq_none_iff {start length row : Nat} {rest : List Nat}
    : spanFrom start length rest row = none ↔ rest.length < row := by
  induction rest generalizing start length row with
  | nil => cases row <;> simp [spanFrom]
  | cons next rest ih =>
      cases row with
      | zero => simp [spanFrom]
      | succ row => simp [spanFrom, ih]

/-- A row lies between the start of the rows and their end, by induction over their lengths. -/
theorem spanFrom_within {start length row first last : Nat} {rest : List Nat}
    (span : spanFrom start length rest row = some (first, last))
    : start + row ≤ first ∧ first ≤ last ∧ last ≤ endFrom start length rest := by
  induction rest generalizing start length row with
  | nil =>
      cases row with
      | zero =>
          cases span
          exact ⟨Nat.le_refl _, Nat.le_add_right _ _, le_endFrom _ _ _⟩
      | succ row => cases span
  | cons next rest ih =>
      cases row with
      | zero =>
          cases span
          exact ⟨Nat.le_refl _, Nat.le_add_right _ _, le_endFrom _ _ _⟩
      | succ row =>
          obtain ⟨above, ordered, below⟩ := ih span
          exact ⟨by omega, ordered, below⟩

/-- The next row starts one offset behind the end of a row, by induction over their lengths. -/
theorem spanFrom_succ {start length row first last : Nat} {rest : List Nat}
    (span : spanFrom start length rest row = some (first, last))
    : (spanFrom start length rest (row + 1)).map (·.1)
      = if last < endFrom start length rest then some (last + 1) else none := by
  induction rest generalizing start length row with
  | nil =>
      cases row with
      | zero =>
          cases span
          simp [spanFrom, endFrom]
      | succ row => cases span
  | cons next rest ih =>
      cases row with
      | zero =>
          cases span
          have later := le_endFrom (first + length + 1) next rest
          have more : first + length < endFrom first length (next :: rest) := by
            rw [endFrom]
            omega
          simp [spanFrom, if_pos more]
      | succ row => exact ih span

/-- An earlier row ends before a later one starts, by induction over their lengths. -/
theorem spanFrom_apart {start length row later first last first' last' : Nat} {rest : List Nat}
    (span : spanFrom start length rest row = some (first, last))
    (other : spanFrom start length rest later = some (first', last')) (order : row < later)
    : last < first' := by
  induction rest generalizing start length row later with
  | nil =>
      cases later with
      | zero => omega
      | succ later => cases other
  | cons next rest ih =>
      cases later with
      | zero => omega
      | succ later =>
          cases row with
          | zero =>
              cases span
              have behind : spanFrom (first + length + 1) next rest later = some (first', last') :=
                other
              have above := (spanFrom_within behind).1
              omega
          | succ row => exact ih span other (by omega)

/-- An offset up to the end is located in the row that holds it, by induction over the lengths of
the rows.
-/
theorem exists_spanFrom {start length offset : Nat} {rest : List Nat} (row : Nat)
    (within : start + offset ≤ endFrom start length rest)
    : ∃ below first last,
        spanFrom start length rest below = some (first, last)
        ∧ first ≤ start + offset
        ∧ start + offset ≤ last
        ∧ locate row offset length rest = ⟨row + below, start + offset - first⟩ := by
  induction rest generalizing start length offset row with
  | nil =>
      rw [endFrom] at within
      refine ⟨0, start, start + length, by rw [spanFrom], by omega, within, ?_⟩
      have short : offset ≤ length := by omega
      simp only [locate, Nat.min_eq_left short, Nat.add_zero, Nat.add_sub_cancel_left]
  | cons next rest ih =>
      by_cases here : offset ≤ length
      · refine ⟨0, start, start + length, by rw [spanFrom], by omega, by omega, ?_⟩
        simp only [locate, if_pos here, Nat.add_zero, Nat.add_sub_cancel_left]
      · have moved : start + length + 1 + (offset - length - 1) = start + offset := by omega
        rw [endFrom, ← moved] at within
        obtain ⟨below, first, last, span, after, before, located⟩ := ih (row + 1) within
        rw [moved] at after before located
        refine ⟨below + 1, first, last, span, after, before, ?_⟩
        rw [locate, if_neg here, located, Nat.add_right_comm, Nat.add_assoc]

/-- Offsets beyond the end are located where the end is, by induction over the lengths of the
rows.
-/
theorem locate_beyond {start length offset finish : Nat} {rest : List Nat} (row : Nat)
    (isEnd : start + finish = endFrom start length rest) (beyond : finish ≤ offset)
    : locate row offset length rest = locate row finish length rest := by
  induction rest generalizing start length offset finish row with
  | nil =>
      rw [endFrom] at isEnd
      have same : finish = length := by omega
      rw [locate, locate, same, Nat.min_self, Nat.min_eq_right (same ▸ beyond)]
  | cons next rest ih =>
      have later := le_endFrom (start + length + 1) next rest
      rw [endFrom] at isEnd
      rw [locate, locate, if_neg (by omega), if_neg (by omega)]
      have isEnd' : start + length + 1 + (finish - length - 1)
          = endFrom (start + length + 1) next rest := by
        omega
      exact ih (row + 1) isEnd' (by omega)

-----------------------------------------------------------------------------------------
-- Rows of a text
-----------------------------------------------------------------------------------------

variable {lines : LineIndex}

/-- Where the last row ends. -/
def textEnd (lines : LineIndex) : Nat := endFrom 0 lines.first lines.rest

theorem span?_eq_none_iff {row : Nat} : lines.span? row = none ↔ lines.lineCount ≤ row := by
  rw [span?, spanFrom_eq_none_iff, lineCount, Nat.succ_le_iff]

theorem span?_within {row first last : Nat} (span : lines.span? row = some (first, last))
    : row ≤ first ∧ first ≤ last ∧ last ≤ lines.textEnd := by
  have within := spanFrom_within span
  rwa [Nat.zero_add] at within

/-- An offset up to the end of the text is in the row of its position, as far behind the start as
its column says.
-/
theorem exists_span? {offset : Nat} (within : offset ≤ lines.textEnd)
    : ∃ first last,
        lines.span? (lines.positionAt offset).row = some (first, last)
        ∧ first + (lines.positionAt offset).column = offset
        ∧ offset ≤ last := by
  have within' : 0 + offset ≤ endFrom 0 lines.first lines.rest := by
    rwa [Nat.zero_add]
  obtain ⟨row, first, last, span, after, before, located⟩ := exists_spanFrom 0 within'
  rw [Nat.zero_add] at after before
  simp only [Nat.zero_add] at located
  refine ⟨first, last, ?_, ?_, before⟩
  · rw [positionAt, located]
    exact span
  · rw [positionAt, located]
    exact Nat.add_sub_cancel' after

/-- No offset is in two rows, so the row that holds one is that of its position. -/
theorem positionAt_eq {row first last offset : Nat} (span : lines.span? row = some (first, last))
    (after : first ≤ offset) (before : offset ≤ last)
    : lines.positionAt offset = ⟨row, offset - first⟩ := by
  obtain ⟨_, _, below⟩ := span?_within span
  obtain ⟨first', last', span', column, before'⟩ := exists_span? (Nat.le_trans before below)
  generalize lines.positionAt offset = point at span' column
  obtain ⟨row', column'⟩ := point
  rcases Nat.lt_trichotomy row row' with earlier | rfl | later
  · have apart : last < first' := spanFrom_apart span span' earlier
    simp only at column
    omega
  · obtain ⟨rfl, rfl⟩ := Prod.mk.inj (Option.some.inj (span.symm.trans span'))
    simp only at column
    rw [← column, Nat.add_sub_cancel_left]
  · have apart : last' < first := spanFrom_apart span' span later
    omega

-----------------------------------------------------------------------------------------
-- Offsets and positions
-----------------------------------------------------------------------------------------

theorem offsetAt?_eq_some_iff {point : Point} {offset : Nat}
    : lines.offsetAt? point = some offset
      ↔ ∃ first last,
          lines.span? point.row = some (first, last)
          ∧ min (first + point.column) last = offset := by
  simp [offsetAt?]

/-- A position has an offset exactly if the text has its row. -/
theorem offsetAt?_eq_none_iff {point : Point}
    : lines.offsetAt? point = none ↔ lines.lineCount ≤ point.row := by
  rw [offsetAt?, Option.map_eq_none_iff, span?_eq_none_iff]

/-- The position of an offset leads back to it. -/
theorem offsetAt?_positionAt {offset : Nat} (within : offset ≤ lines.textEnd)
    : lines.offsetAt? (lines.positionAt offset) = some offset := by
  obtain ⟨first, last, span, column, before⟩ := exists_span? within
  refine offsetAt?_eq_some_iff.mpr ⟨first, last, span, ?_⟩
  rw [column, Nat.min_eq_left before]

/-- The offset of a position leads back to it, up to a column beyond the end of the row. -/
theorem positionAt_of_offsetAt? {point : Point} {offset : Nat}
    (found : lines.offsetAt? point = some offset)
    : ∃ first last,
        lines.span? point.row = some (first, last)
        ∧ first ≤ offset
        ∧ offset ≤ last
        ∧ lines.positionAt offset = ⟨point.row, min point.column (last - first)⟩ := by
  obtain ⟨first, last, span, rfl⟩ := offsetAt?_eq_some_iff.mp found
  obtain ⟨_, ordered, _⟩ := span?_within span
  have after : first ≤ min (first + point.column) last := by omega
  have before : min (first + point.column) last ≤ last := Nat.min_le_right _ _
  refine ⟨first, last, span, after, before, ?_⟩
  have column : min (first + point.column) last - first = min point.column (last - first) := by
    omega
  rw [positionAt_eq span after before, column]

/-- An offset of a position is one of the text. -/
theorem offsetAt?_le {point : Point} {offset : Nat} (found : lines.offsetAt? point = some offset)
    : offset ≤ lines.textEnd := by
  obtain ⟨first, last, span, _, before, _⟩ := positionAt_of_offsetAt? found
  exact Nat.le_trans before (span?_within span).2.2

/-- Later offsets of the text have later positions. -/
theorem positionAt_isBefore {left right : Nat} (order : left < right)
    (within : right ≤ lines.textEnd)
    : (lines.positionAt left).isBefore (lines.positionAt right) = true := by
  obtain ⟨first, last, span, column, before⟩ := exists_span? (Nat.le_trans (Nat.le_of_lt order) within)
  obtain ⟨first', last', span', column', before'⟩ := exists_span? within
  rw [Point.isBefore_iff]
  rcases Nat.lt_trichotomy (lines.positionAt left).row (lines.positionAt right).row with
    earlier | same | later
  · exact .inl earlier
  · rw [same] at span
    obtain ⟨rfl, rfl⟩ := Prod.mk.inj (Option.some.inj (span.symm.trans span'))
    exact .inr ⟨same, by omega⟩
  · have apart : last' < first := spanFrom_apart span' span later
    omega

/-- Positions of later offsets are not before those of earlier ones. -/
theorem positionAt_not_before {left right : Nat} (order : left ≤ right)
    (within : right ≤ lines.textEnd)
    : (lines.positionAt right).isBefore (lines.positionAt left) = false := by
  rcases Nat.eq_or_lt_of_le order with rfl | earlier
  · simp [Point.isBefore_eq_false_iff]
  · exact Point.isBefore_asymm (positionAt_isBefore earlier within)

/-- Offsets beyond the text have the position of its end. -/
theorem positionAt_beyond {offset : Nat} (beyond : lines.textEnd ≤ offset)
    : lines.positionAt offset = lines.positionAt lines.textEnd := by
  have isEnd : 0 + lines.textEnd = endFrom 0 lines.first lines.rest := Nat.zero_add _
  exact locate_beyond 0 isEnd beyond

/-- Positions that are not before others have no smaller offsets: in a later row because the rows
lie apart, in the same row because both columns end where it ends.
-/
theorem offsetAt?_le_offsetAt? {left right : Point} {first last : Nat}
    (order : right.isBefore left = false) (foundFirst : lines.offsetAt? left = some first)
    (foundLast : lines.offsetAt? right = some last)
    : first ≤ last := by
  obtain ⟨start, stop, span, rfl⟩ := offsetAt?_eq_some_iff.mp foundFirst
  obtain ⟨start', stop', span', rfl⟩ := offsetAt?_eq_some_iff.mp foundLast
  obtain ⟨rows, columns⟩ := Point.isBefore_eq_false_iff.mp order
  rcases Nat.eq_or_lt_of_le rows with same | earlier
  · rw [same] at span
    obtain ⟨rfl, rfl⟩ := Prod.mk.inj (Option.some.inj (span.symm.trans span'))
    have column := columns same
    omega
  · have apart : stop < start' := spanFrom_apart span span' earlier
    obtain ⟨_, ordered, _⟩ := span?_within span'
    omega

end LineIndex

end SyntaxExplorer
