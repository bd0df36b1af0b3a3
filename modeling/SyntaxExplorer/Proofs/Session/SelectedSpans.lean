import SyntaxExplorer.Proofs.Text.WordRuns
import SyntaxExplorer.Session.Session

/-! Selections in the editor as spans of a text.  Positions are put in order before their offsets are
looked up, and looking up keeps the order, so the ends of a span are in order as offsets and again as
the positions that a session looks for a node with.
-/

namespace SyntaxExplorer

open Text Words

namespace Selection

-----------------------------------------------------------------------------------------
-- Spans
-----------------------------------------------------------------------------------------

/-- Two positions are the first and the last end of a selection. -/
structure AreEnds (anchor active first last : Point) : Prop where
  order : first.isBefore last = true
  ends : (first, last) = (anchor, active) ∨ (first, last) = (active, anchor)

variable {text : String} {anchor active first last : Point} {start stop : Nat}

theorem AreEnds.swap (areEnds : AreEnds anchor active first last)
    : AreEnds active anchor first last :=
  ⟨areEnds.order, areEnds.ends.symm⟩

/-- Of two different positions, one is the first end and the other the last. -/
theorem exists_areEnds (differ : anchor ≠ active)
    : ∃ first last, AreEnds anchor active first last := by
  rcases Point.isBefore_or_of_ne differ with order | order
  · exact ⟨anchor, active, order, .inl rfl⟩
  · exact ⟨active, anchor, order, .inr rfl⟩

/-- The ends of a selection are what its span is made of, in whichever order they come. -/
theorem AreEnds.pair_eq (areEnds : AreEnds anchor active first last)
    : anchor ≠ active
      ∧ (if active.isBefore anchor then (active, anchor) else (anchor, active)) = (first, last) := by
  obtain ⟨order, same | same⟩ := areEnds
  · cases same
    have notBack := Point.isBefore_asymm order
    refine ⟨?_, by simp [notBack]⟩
    rintro rfl
    rw [order] at notBack
    cases notBack
  · cases same
    refine ⟨?_, by simp [order]⟩
    rintro rfl
    rw [Point.isBefore_iff] at order
    omega

/-- The span between two positions goes from the offset of the first end to that of the last. -/
theorem AreEnds.span?_eq_some_iff {lines : LineIndex} (areEnds : AreEnds anchor active first last)
    : span? text lines anchor active = some (start, stop)
      ↔ lines.offsetAt? first = some start ∧ lines.offsetAt? last = some stop := by
  obtain ⟨differ, pair⟩ := areEnds.pair_eq
  simp only [span?, if_neg differ, pair, Option.bind_eq_bind, Option.bind_eq_some_iff,
    Option.pure_def, Option.some.injEq, Prod.mk.injEq]
  constructor
  · rintro ⟨_, foundFirst, _, foundLast, rfl, rfl⟩
    exact ⟨foundFirst, foundLast⟩
  · rintro ⟨foundFirst, foundLast⟩
    exact ⟨_, foundFirst, _, foundLast, rfl, rfl⟩

/-- Which end of a selection came first makes no difference. -/
theorem span?_comm (text : String) (lines : LineIndex) (anchor active : Point)
    : span? text lines anchor active = span? text lines active anchor := by
  by_cases differ : anchor = active
  · rw [differ]
  · obtain ⟨first, last, areEnds⟩ := exists_areEnds differ
    ext ⟨start, stop⟩
    rw [areEnds.span?_eq_some_iff, areEnds.swap.span?_eq_some_iff]

/-- There is a span between two positions exactly if the text has both rows. -/
theorem AreEnds.span?_eq_none_iff {lines : LineIndex} (areEnds : AreEnds anchor active first last)
    : span? text lines anchor active = none
      ↔ lines.lineCount ≤ anchor.row ∨ lines.lineCount ≤ active.row := by
  have eitherEnd : lines.lineCount ≤ anchor.row ∨ lines.lineCount ≤ active.row
      ↔ lines.lineCount ≤ first.row ∨ lines.lineCount ≤ last.row := by
    rcases areEnds.ends with same | same
    · cases same
      exact Iff.rfl
    · cases same
      exact or_comm
  rw [eitherEnd, ← LineIndex.offsetAt?_eq_none_iff, ← LineIndex.offsetAt?_eq_none_iff,
    Option.eq_none_iff_forall_ne_some]
  constructor
  · intro noSpan
    cases foundFirst : lines.offsetAt? first with
    | none => exact .inl rfl
    | some start =>
        cases foundLast : lines.offsetAt? last with
        | none => exact .inr rfl
        | some stop =>
            exact (noSpan (start, stop) (areEnds.span?_eq_some_iff.mpr ⟨foundFirst, foundLast⟩)).elim
  · rintro noEnd ⟨start, stop⟩ here
    obtain ⟨foundFirst, foundLast⟩ := areEnds.span?_eq_some_iff.mp here
    rw [foundFirst, foundLast] at noEnd
    rcases noEnd with none | none <;> cases none

/-- A span does not end before it starts, and not behind the text: words lie in their rows, and the
offsets of positions are in the order of these.
-/
theorem within_of_span? (here : span? text (LineIndex.ofText text) anchor active = some (start, stop))
    : start ≤ stop ∧ stop ≤ byteLength text.toList := by
  by_cases differ : anchor = active
  · rw [span?, if_pos differ] at here
    obtain ⟨ordered, ⟨_, _, row, _, inRow⟩, _⟩ := (wordAt?_eq_some_iff.mp here).1.within
    have inText := (LineIndex.span?_within row).2.2
    rw [LineIndex.textEnd_ofText] at inText
    omega
  · obtain ⟨first, last, areEnds⟩ := exists_areEnds differ
    obtain ⟨foundFirst, foundLast⟩ := areEnds.span?_eq_some_iff.mp here
    have inText := LineIndex.offsetAt?_le foundLast
    rw [LineIndex.textEnd_ofText] at inText
    exact ⟨LineIndex.offsetAt?_le_offsetAt? (Point.isBefore_asymm areEnds.order) foundFirst
      foundLast, inText⟩

-----------------------------------------------------------------------------------------
-- Step by step on words
-----------------------------------------------------------------------------------------

theorem spanStepwise_eq {table : LineTable} (indexes : table.Indexes (LineIndex.ofText text))
    (anchor active : Point)
    : spanStepwise text table anchor active
      = .ok (span? text (LineIndex.ofText text) anchor active) := by
  by_cases differ : anchor = active
  · rw [spanStepwise, span?, if_pos differ, if_pos differ, wordStepwise_eq indexes]
  · obtain ⟨first, last, areEnds⟩ := exists_areEnds differ
    simp only [spanStepwise, span?, if_neg differ, areEnds.pair_eq.2, indexes.offsetAt, bind,
      Except.bind, Option.bind, pure, Except.pure]
    cases (LineIndex.ofText text).offsetAt? first with
    | none => rfl
    | some start =>
        cases (LineIndex.ofText text).offsetAt? last with
        | none => rfl
        | some stop => rfl

theorem endsStepwise_eq (bounded : byteLength text.toList + 1 < offsetBound)
    (anchor active : Point)
    : let lines := LineIndex.ofText text
      endsStepwise text anchor active
        = .ok ((span? text lines anchor active).map fun (start, stop) =>
            (lines.positionAt start, lines.positionAt stop)) := by
  obtain ⟨table, made, indexes⟩ := LineTable.exists_ofText bounded
  simp only [endsStepwise, made, spanStepwise_eq indexes, bind, Except.bind, pure, Except.pure]
  cases span? text (LineIndex.ofText text) anchor active with
  | none => rfl
  | some span => simp only [indexes.positionAt, Option.map_some]

end Selection

/-- Between two points in order there always is a smallest node. -/
theorem Node.smallestSpanning?_isSome {root : Node} {first last : Point}
    (order : last.isBefore first = false)
    : (root.smallestSpanning? first last).isSome = true := by
  simp [smallestSpanning?, order]

namespace Selection

/-- A position is in the row of a point, at its column or at the end of the row before that. -/
def IsClamped (lines : LineIndex) (point position : Point) : Prop :=
  ∃ start stop,
    lines.span? point.row = some (start, stop)
    ∧ position = ⟨point.row, min point.column (stop - start)⟩

/-- The span of a selection is the same from either end.  Of equal positions it is the word there;
between different ones there is one exactly if the text has both rows, and it goes from the column of
the first end to that of the last, or to the ends of their rows.  A span ends in the text and not
before it starts, and the positions of its ends are in the same order and lead back to it; so a
session, which looks for a node between these, finds one for each span.  Step by step on words none
of this breaks off, whatever the positions.
-/
theorem spans_areOrdered (text : String) (anchor active : Point)
    : let lines := LineIndex.ofText text
      let length := byteLength text.toList
      let span := span? text lines anchor active
      let ends := span.map fun (start, stop) => (lines.positionAt start, lines.positionAt stop)
      span = span? text lines active anchor
      ∧ (anchor = active → span = wordAt? text lines anchor)
      ∧ (anchor ≠ active
          → (span = none ↔ lines.lineCount ≤ anchor.row ∨ lines.lineCount ≤ active.row)
            ∧ ∃ first last,
                AreEnds anchor active first last
                ∧ ∀ start stop, span = some (start, stop)
                  → IsClamped lines first (lines.positionAt start)
                    ∧ IsClamped lines last (lines.positionAt stop))
      ∧ (∀ start stop, span = some (start, stop)
          → start ≤ stop
            ∧ stop ≤ length
            ∧ (lines.positionAt stop).isBefore (lines.positionAt start) = false
            ∧ lines.offsetAt? (lines.positionAt start) = some start
            ∧ lines.offsetAt? (lines.positionAt stop) = some stop)
      ∧ (∀ {Tree Query : Type} (session : Session Tree Query), session.text = text
          → session.nodeAt? anchor active
              = (ends.bind fun (first, last) => session.root.smallestSpanning? first last)
            ∧ (session.nodeAt? anchor active).isSome = span.isSome)
      ∧ (length + 1 < offsetBound
          → (∃ table,
              LineTable.ofText text = .ok table
              ∧ spanStepwise text table anchor active = .ok span)
            ∧ endsStepwise text anchor active = .ok ends) := by
  intro lines length span ends
  have ordered (start stop : Nat) (here : span = some (start, stop))
      : (lines.positionAt stop).isBefore (lines.positionAt start) = false := by
    obtain ⟨order, inText⟩ := within_of_span? here
    exact LineIndex.positionAt_not_before order ((LineIndex.textEnd_ofText text).symm ▸ inText)
  refine ⟨span?_comm text lines anchor active, ?_, ?_, ?_, ?_, ?_⟩
  · intro same
    simp only [span, span?, if_pos same]
  · intro differ
    obtain ⟨first, last, areEnds⟩ := exists_areEnds differ
    refine ⟨areEnds.span?_eq_none_iff, first, last, areEnds, ?_⟩
    intro start stop here
    obtain ⟨foundFirst, foundLast⟩ := areEnds.span?_eq_some_iff.mp here
    obtain ⟨begins, finish, row, _, _, position⟩ := LineIndex.positionAt_of_offsetAt? foundFirst
    obtain ⟨begins', finish', row', _, _, position'⟩ := LineIndex.positionAt_of_offsetAt? foundLast
    exact ⟨⟨begins, finish, row, position⟩, ⟨begins', finish', row', position'⟩⟩
  · intro start stop here
    obtain ⟨order, inText⟩ := within_of_span? here
    have stopInText : stop ≤ lines.textEnd := (LineIndex.textEnd_ofText text).symm ▸ inText
    exact ⟨order, inText, ordered start stop here,
      LineIndex.offsetAt?_positionAt (Nat.le_trans order stopInText),
      LineIndex.offsetAt?_positionAt stopInText⟩
  · rintro Tree Query session rfl
    have looked : session.nodeAt? anchor active
        = ends.bind fun (first, last) => session.root.smallestSpanning? first last := by
      simp only [Session.nodeAt?, ends, span, lines, Option.bind_eq_bind, Option.bind_map]
      rfl
    refine ⟨looked, ?_⟩
    rw [looked]
    cases here : span with
    | none => simp only [ends, here, Option.map_none, Option.bind_none, Option.isSome_none]
    | some bounds =>
        obtain ⟨start, stop⟩ := bounds
        simp only [ends, here, Option.map_some, Option.bind_some, Option.isSome_some]
        exact Node.smallestSpanning?_isSome (ordered start stop here)
  · intro bounded
    obtain ⟨table, made, indexes⟩ := LineTable.exists_ofText bounded
    exact ⟨⟨table, made, spanStepwise_eq indexes anchor active⟩,
      endsStepwise_eq bounded anchor active⟩

/-- A selection that was made backwards over a line break, to a column far behind its line, and one
that ends behind the last line.
-/
theorem spans_areOrdered_backwards
    : byteLength "aé\n→b".toList + 1 < offsetBound
      ∧ (⟨1, 18446744073709551615⟩ : Point) ≠ ⟨0, 1⟩
      ∧ endsStepwise "aé\n→b" ⟨1, 18446744073709551615⟩ ⟨0, 1⟩ = .ok (some (⟨0, 1⟩, ⟨1, 4⟩))
      ∧ endsStepwise "aé\n→b" ⟨0, 1⟩ ⟨2, 0⟩ = .ok none := by
  have bounded : byteLength "aé\n→b".toList + 1 < offsetBound := by decide
  obtain ⟨_, _, _, _, _, steps⟩ :=
    spans_areOrdered "aé\n→b" ⟨1, 18446744073709551615⟩ ⟨0, 1⟩
  obtain ⟨_, _, _, _, _, steps'⟩ := spans_areOrdered "aé\n→b" ⟨0, 1⟩ ⟨2, 0⟩
  refine ⟨bounded, by decide, (steps bounded).2.trans (congrArg Except.ok ?_),
    (steps' bounded).2.trans (congrArg Except.ok ?_)⟩
  · decide +kernel
  · decide +kernel

end Selection

end SyntaxExplorer
