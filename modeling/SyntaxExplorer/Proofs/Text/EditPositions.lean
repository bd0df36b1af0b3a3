import SyntaxExplorer.Proofs.Text.Splices

/-! Which changes apply, what is wrong with the others, and which edits have the positions of their
offsets.  Only the end of the new text is looked up; the other two positions are those that the
change came with, whatever the text has at its offsets.
-/

namespace SyntaxExplorer

open Text

/-- The points of an edit are those that the line indexes of the texts before and after it have
at its offsets.
-/
structure TreeEdit.AgreesWith (edit : TreeEdit) (old new : String) : Prop where
  start : edit.start.point = (LineIndex.ofText old).positionAt edit.start.bytes
  oldStop : edit.oldStop.point = (LineIndex.ofText old).positionAt edit.oldStop.bytes
  newStop : edit.newStop.point = (LineIndex.ofText new).positionAt edit.newStop.bytes

/-- The order in which an edit is valid, as a proposition on its extents. -/
theorem TreeEdit.validate_eq_ok_iff {edit : TreeEdit}
    : edit.validate = .ok ()
      ↔ edit.start.bytes ≤ edit.oldStop.bytes
        ∧ edit.start.bytes ≤ edit.newStop.bytes
        ∧ edit.oldStop.point.isBefore edit.start.point = false
        ∧ edit.newStop.point.isBefore edit.start.point = false := by
  simp only [validate, Bool.or_eq_true, decide_eq_true_eq]
  split
  · rename_i early
    simp only [reduceCtorEq, false_iff]
    omega
  · rename_i ordered
    split
    · rename_i early
      simp only [reduceCtorEq, false_iff]
      rintro ⟨_, _, stop, newStop⟩
      simp [stop, newStop] at early
    · rename_i behind
      simp only [not_or, Bool.not_eq_true] at behind
      simp only [true_iff]
      exact ⟨by omega, by omega, behind.1, behind.2⟩

namespace TextChange

/-- The span of a change lies within a text, between characters. -/
structure Fits (change : TextChange) (text : String) : Prop where
  bounded : change.offset + change.length < offsetBound
  start : isBoundary text.toList change.offset = true
  stop : isBoundary text.toList (change.offset + change.length) = true

/-- The point that the inserted text reaches from the offset of a change. -/
def newStopPoint (change : TextChange) (text : String) : Point :=
  change.inserted.toList.foldl Point.advance
    ((LineIndex.ofText text).positionAt change.offset)

/-- The positions of a change do not end before they start. -/
structure InOrder (change : TextChange) (text : String) : Prop where
  stop : change.stop.isBefore change.start = false
  newStop : (change.newStopPoint text).isBefore change.start = false

/-- A change suits a text: it can be made in it as it stands. -/
def Suits (change : TextChange) (text : String) : Prop := change.Fits text ∧ change.InOrder text

instance (change : TextChange) (text : String) : Decidable (change.Suits text) :=
  decidable_of_iff
    ((change.offset + change.length < offsetBound
        ∧ isBoundary text.toList change.offset = true
        ∧ isBoundary text.toList (change.offset + change.length) = true)
      ∧ change.stop.isBefore change.start = false
      ∧ (change.newStopPoint text).isBefore change.start = false)
    ⟨fun ⟨⟨bounded, start, stop⟩, first, second⟩ => ⟨⟨bounded, start, stop⟩, first, second⟩,
      fun ⟨fits, ordered⟩ =>
        ⟨⟨fits.bounded, fits.start, fits.stop⟩, ordered.stop, ordered.newStop⟩⟩

/-- What is wrong with a change in a text, in the order in which it is looked at: its span ends
beyond the bound of offsets, ends beyond the text, or cuts a character, or its positions end before
they start.
-/
inductive HasFault (change : TextChange) (text : String) : EditFault → Prop
  | overflows (long : offsetBound ≤ change.offset + change.length)
    : HasFault change text (.rangeOverflows change.offset change.length)
  | beyond (bounded : change.offset + change.length < offsetBound)
    (outside : byteLength text.toList < change.offset + change.length)
    : HasFault change text
        (.rangeBeyondText change.offset (change.offset + change.length)
          (byteLength text.toList))
  | splits (bounded : change.offset + change.length < offsetBound)
    (within : change.offset + change.length ≤ byteLength text.toList)
    (inside : isBoundary text.toList change.offset = false
      ∨ isBoundary text.toList (change.offset + change.length) = false)
    : HasFault change text
        (.rangeSplitsCharacter change.offset (change.offset + change.length))
  | disorder (fits : change.Fits text) (disordered : ¬ change.InOrder text)
    : HasFault change text
        (.positionsOutOfOrder change.start change.stop (change.newStopPoint text))

/-- What is wrong with a change that does not fit a text: its span goes beyond the text, or it cuts
a character.
-/
def misfit (change : TextChange) (text : String) : EditFault :=
  let stop := change.offset + change.length
  if byteLength text.toList < stop then
    .rangeBeyondText change.offset stop (byteLength text.toList)
  else .rangeSplitsCharacter change.offset stop

-----------------------------------------------------------------------------------------
-- Changes that suit a text
-----------------------------------------------------------------------------------------

/-- A change fits a text exactly if it cuts it. -/
theorem fits_iff_cuts {change : TextChange} {text : String}
    : change.Fits text
      ↔ change.offset + change.length < offsetBound
        ∧ ∃ before replaced after, change.Cuts text before replaced after := by
  constructor
  · rintro ⟨bounded, start, stop⟩
    obtain ⟨⟨before, rest⟩, first⟩ := Option.isSome_iff_exists.mp start
    obtain ⟨⟨front, after⟩, second⟩ := Option.isSome_iff_exists.mp stop
    exact ⟨bounded, before, (Cuts.of_splits first second).imp fun _ cut => ⟨after, cut⟩⟩
  · rintro ⟨bounded, before, replaced, after, cut⟩
    exact ⟨bounded, by simp [isBoundary, cut.splits.1], by simp [isBoundary, cut.splits.2]⟩

/-- The inserted text ends at the point that it reaches from the offset. -/
theorem Cuts.newStopPoint_eq {change : TextChange} {text : String}
    {before replaced after : List Char} (cut : change.Cuts text before replaced after)
    : change.newStopPoint text = (change.editBehind before).newStop.point := by
  rw [newStopPoint, cut.positionAt_offset, editBehind, Extent.ofChars, Extent.ofChars,
    List.foldl_append]

/-- The edit of a cut is valid exactly if the positions of the change are in order: its offsets
always are.
-/
theorem Cuts.valid_iff_inOrder {change : TextChange} {text : String}
    {before replaced after : List Char} (cut : change.Cuts text before replaced after)
    : (change.editBehind before).validate = .ok () ↔ change.InOrder text := by
  have newStop : (change.editBehind before).newStop.bytes = change.newStop := cut.newStop
  rw [TreeEdit.validate_eq_ok_iff, ← cut.newStopPoint_eq, newStop]
  constructor
  · rintro ⟨_, _, stop, newStop⟩
    exact ⟨stop, newStop⟩
  · rintro ⟨stop, newStop⟩
    exact ⟨Nat.le_add_right _ _, Nat.le_add_right _ _, stop, newStop⟩

/-- A change applies exactly if it fits the text and its positions are in order. -/
theorem applies_iff {change : TextChange} {text : String}
    : (∃ edit next, change.apply text = .ok (edit, next)) ↔ change.Suits text := by
  constructor
  · rintro ⟨edit, next, applied⟩
    obtain ⟨before, replaced, after, cut, bounded, valid, _⟩ := apply_eq_ok_iff.mp applied
    exact ⟨fits_iff_cuts.mpr ⟨bounded, before, replaced, after, cut⟩,
      cut.valid_iff_inOrder.mp valid⟩
  · rintro ⟨fits, ordered⟩
    obtain ⟨bounded, before, replaced, after, cut⟩ := fits_iff_cuts.mp fits
    exact ⟨_, _, apply_eq_ok_iff.mpr
      ⟨before, replaced, after, cut, bounded, cut.valid_iff_inOrder.mpr ordered, rfl, rfl⟩⟩

-----------------------------------------------------------------------------------------
-- What is wrong with the others
-----------------------------------------------------------------------------------------

/-- A change within the bound of offsets that does not fit has that as its fault. -/
theorem hasFault_misfit {change : TextChange} {text : String}
    (bounded : change.offset + change.length < offsetBound) (misplaced : ¬ change.Fits text)
    : change.HasFault text (change.misfit text) := by
  rw [misfit]
  split
  · rename_i outside
    exact .beyond bounded outside
  · rename_i within
    refine .splits bounded (Nat.not_lt.mp within) ?_
    cases start : isBoundary text.toList change.offset with
    | false => exact .inl rfl
    | true => exact .inr (Bool.eq_false_iff.mpr fun stop => misplaced ⟨bounded, start, stop⟩)

/-- A change suits a text, or something is wrong with it. -/
theorem suits_or_hasFault (change : TextChange) (text : String)
    : change.Suits text ∨ ∃ fault, change.HasFault text fault := by
  by_cases bounded : change.offset + change.length < offsetBound
  · by_cases fits : change.Fits text
    · by_cases ordered : change.InOrder text
      · exact .inl ⟨fits, ordered⟩
      · exact .inr ⟨_, .disorder fits ordered⟩
    · exact .inr ⟨_, hasFault_misfit bounded fits⟩
  · exact .inr ⟨_, .overflows (Nat.not_lt.mp bounded)⟩

/-- The edit of a cut that is not valid has its positions out of order. -/
theorem Cuts.validate_eq_error {change : TextChange} {text : String}
    {before replaced after : List Char} (cut : change.Cuts text before replaced after)
    (disordered : ¬ change.InOrder text)
    : (change.editBehind before).validate
      = .error (.positionsOutOfOrder change.start change.stop (change.newStopPoint text)) := by
  have newStop : (change.editBehind before).newStop.bytes = change.newStop := cut.newStop
  have reached : change.offset ≤ change.newStop := Nat.le_add_right _ _
  have ends : ¬ (change.offset + change.length < change.offset
      || change.newStop < change.offset) := by
    simp only [Bool.or_eq_true, decide_eq_true_eq]
    omega
  have early : change.stop.isBefore change.start
      || (change.newStopPoint text).isBefore change.start := by
    rw [Bool.or_eq_true]
    cases stop : change.stop.isBefore change.start with
    | true => exact .inl rfl
    | false => exact .inr (Bool.not_eq_false _ |>.mp fun newStop => disordered ⟨stop, newStop⟩)
  rw [TreeEdit.validate, newStop, ← cut.newStopPoint_eq]
  exact (if_neg ends).trans (if_pos early)

/-- A change with something wrong is refused for that. -/
theorem HasFault.apply {change : TextChange} {text : String} {fault : EditFault}
    (wrong : change.HasFault text fault)
    : change.apply text = .error fault := by
  cases wrong with
  | overflows long =>
      simp only [TextChange.apply, if_pos long]
      rfl
  | beyond bounded outside =>
      simp only [TextChange.apply, if_neg (Nat.not_le.mpr bounded), if_pos outside]
      rfl
  | splits bounded within inside =>
      simp only [TextChange.apply, if_neg (Nat.not_le.mpr bounded),
        if_neg (Nat.not_lt.mpr within)]
      split
      · rename_i first second
        simp [isBoundary, first, second] at inside
      · rfl
  | disorder fits disordered =>
      obtain ⟨bounded, before, replaced, after, cut⟩ := fits_iff_cuts.mp fits
      rw [cut.apply bounded, cut.validate_eq_error disordered]
      rfl

/-- A change is refused exactly for what is wrong with it. -/
theorem apply_eq_error_iff {change : TextChange} {text : String} {fault : EditFault}
    : change.apply text = .error fault ↔ change.HasFault text fault := by
  constructor
  · intro refused
    rcases change.suits_or_hasFault text with suits | ⟨other, wrong⟩
    · obtain ⟨edit, next, applied⟩ := applies_iff.mpr suits
      cases refused.symm.trans applied
    · cases refused.symm.trans wrong.apply
      exact wrong
  · exact HasFault.apply

-----------------------------------------------------------------------------------------
-- Positions that agree with the texts
-----------------------------------------------------------------------------------------

/-- The positions that a change came with go into its edit as they are; that of the new end is
looked up in the new text.
-/
theorem points_of_apply {change : TextChange} {text next : String} {edit : TreeEdit}
    (applied : change.apply text = .ok (edit, next))
    : edit.start = ⟨change.offset, change.start⟩
      ∧ edit.oldStop = ⟨change.offset + change.length, change.stop⟩
      ∧ edit.newStop.bytes = change.newStop
      ∧ edit.newStop.point = (LineIndex.ofText next).positionAt edit.newStop.bytes := by
  obtain ⟨before, replaced, after, cut, _, _, rfl, rfl⟩ := apply_eq_ok_iff.mp applied
  refine ⟨rfl, rfl, cut.newStop, ?_⟩
  exact (LineIndex.positionAt_eq_point String.toList_ofList).symm

/-- An edit agrees with the texts exactly if the change was positioned. -/
theorem agreesWith_iff_isPositioned {change : TextChange} {text next : String}
    {edit : TreeEdit} (applied : change.apply text = .ok (edit, next))
    : edit.AgreesWith text next ↔ change.IsPositioned text := by
  obtain ⟨start, oldStop, _, newStop⟩ := points_of_apply applied
  constructor
  · rintro ⟨first, second, _⟩
    rw [start] at first
    rw [oldStop] at second
    exact ⟨first, second⟩
  · rintro ⟨first, second⟩
    refine ⟨?_, ?_, newStop⟩
    · rw [start]
      exact first
    · rw [oldStop]
      exact second

/-- The positions of a positioned change that fits are in order: those of later offsets are
never before those of earlier ones.
-/
theorem IsPositioned.inOrder {change : TextChange} {text : String}
    (positioned : change.IsPositioned text) (fits : change.Fits text)
    : change.InOrder text := by
  obtain ⟨_, before, replaced, after, cut⟩ := fits_iff_cuts.mp fits
  constructor
  · rw [positioned.1, positioned.2, cut.positionAt_offset, cut.positionAt_stop, Extent.ofChars,
      Extent.ofChars, List.foldl_append]
    exact Point.foldl_advance_not_before _ _
  · rw [newStopPoint, ← positioned.1]
    exact Point.foldl_advance_not_before _ _

/-- The edit of a change agrees with the texts before and after it exactly if the change fits and
is positioned.  The changes that apply without that are those with other positions in order: their
edits name positions that the old text does not have at their offsets.  The position of the new end
is right in any case.
-/
theorem apply_agreesWith_iff (change : TextChange) (text : String)
    : ((∃ edit next, change.apply text = .ok (edit, next) ∧ edit.AgreesWith text next)
        ↔ change.Fits text ∧ change.IsPositioned text)
      ∧ ((∃ edit next, change.apply text = .ok (edit, next) ∧ ¬ edit.AgreesWith text next)
        ↔ change.Fits text ∧ change.InOrder text ∧ ¬ change.IsPositioned text)
      ∧ ¬ ∃ edit next,
          change.apply text = .ok (edit, next)
          ∧ edit.newStop.point ≠ (LineIndex.ofText next).positionAt edit.newStop.bytes := by
  refine ⟨⟨?_, ?_⟩, ⟨?_, ?_⟩, ?_⟩
  · rintro ⟨edit, next, applied, agrees⟩
    exact ⟨(applies_iff.mp ⟨edit, next, applied⟩).1,
      (agreesWith_iff_isPositioned applied).mp agrees⟩
  · rintro ⟨fits, positioned⟩
    obtain ⟨edit, next, applied⟩ := applies_iff.mpr ⟨fits, positioned.inOrder fits⟩
    exact ⟨edit, next, applied, (agreesWith_iff_isPositioned applied).mpr positioned⟩
  · rintro ⟨edit, next, applied, disagrees⟩
    obtain ⟨fits, ordered⟩ := applies_iff.mp ⟨edit, next, applied⟩
    exact ⟨fits, ordered, mt (agreesWith_iff_isPositioned applied).mpr disagrees⟩
  · rintro ⟨fits, ordered, misplaced⟩
    obtain ⟨edit, next, applied⟩ := applies_iff.mpr ⟨fits, ordered⟩
    exact ⟨edit, next, applied, mt (agreesWith_iff_isPositioned applied).mp misplaced⟩
  · rintro ⟨edit, next, applied, wrong⟩
    exact wrong (points_of_apply applied).2.2.2

/-- A change that names the origin for a span further on is accepted with the origin in its
edit.
-/
theorem apply_keeps_misplaced_origin
    : ∃ edit next,
        (⟨.origin, .origin, 4, 1, "y"⟩ : TextChange).apply "let x = 1;" = .ok (edit, next)
        ∧ edit.start.point ≠ (LineIndex.ofText "let x = 1;").positionAt edit.start.bytes
        ∧ edit.oldStop.point
          ≠ (LineIndex.ofText "let x = 1;").positionAt edit.oldStop.bytes := by
  refine ⟨⟨⟨4, .origin⟩, ⟨5, .origin⟩, ⟨5, ⟨0, 5⟩⟩⟩, "let y = 1;", rfl, ?_, ?_⟩
  · decide
  · decide

end TextChange

end SyntaxExplorer
