import SyntaxExplorer.Proofs.Text.Inverses
import SyntaxExplorer.Proofs.Text.LineTables
import SyntaxExplorer.Text.Stepwise

/-! Changes applied step by step on words.  The checks of a change come before the steps that need
them: once its span is known to fit the text, no sum, difference or slice behind them can fail, and
what they make is what the change makes of the text.
-/

namespace SyntaxExplorer

open Text Words

/-- Two texts of a size have offsets in both together, and room for one more. -/
theorem add_lt_offsetBound {left right : Nat} (leftShort : left < sizeBound)
    (rightShort : right < sizeBound)
    : left + right + 1 < offsetBound := by
  have twice : offsetBound = 2 * sizeBound := by decide
  omega

namespace TextChange

variable {change : TextChange} {text : String}

/-- A change that does not fit is refused by one of the checks, for the same reason. -/
theorem applyStepwise_of_not_fits (misplaced : ¬ change.Fits text)
    : change.applyStepwise text = .ok (change.apply text) := by
  by_cases bounded : change.offset + change.length < offsetBound
  · rw [apply_of_not_fits bounded misplaced, fits_iff_within bounded] at *
    simp only [applyStepwise, sum?, if_pos bounded, misfit]
    split
    · rfl
    · rename_i within
      have split : (!isBoundary text.toList change.offset
          || !isBoundary text.toList (change.offset + change.length)) = true := by
        simp only [Bool.or_eq_true, Bool.not_eq_true']
        by_cases start : isBoundary text.toList change.offset = true
        · refine .inr (Bool.eq_false_iff.mpr fun stop => misplaced ⟨?_, start, stop⟩)
          exact Nat.not_lt.mp within
        · exact .inl (Bool.eq_false_iff.mpr start)
      rw [if_pos split]
      rfl
  · have overflows := Nat.not_lt.mp bounded
    simp only [applyStepwise, TextChange.apply, sum?, if_neg bounded, if_pos overflows]
    rfl

namespace Cuts

variable {before replaced after : List Char}

/-- The bytes of a text that is cut are those up to the end of the replaced span and those behind. -/
theorem length_eq (cut : change.Cuts text before replaced after)
    : byteLength text.toList = change.offset + change.length + byteLength after := by
  rw [cut.whole, byteLength_append, cut.stop]

/-- Both slices that stay are between boundaries of the text. -/
theorem slices (cut : change.Cuts text before replaced after)
    : slice text 0 change.offset = .ok (String.ofList before)
      ∧ slice text (change.offset + change.length) (byteLength text.toList)
        = .ok (String.ofList after) := by
  constructor
  · have whole : text.toList = [] ++ before ++ (replaced ++ after) := by
      rw [cut.whole, List.nil_append, List.append_assoc]
    rw [← cut.offset]
    exact slice_of_append whole
  · have whole : text.toList = before ++ replaced ++ after ++ [] := by
      rw [cut.whole, List.append_nil]
    rw [← cut.stop, cut.whole]
    exact slice_of_append whole

/-- The table of the new text has the end of the inserted text where the edit has it. -/
theorem exists_table (cut : change.Cuts text before replaced after)
    (short : byteLength text.toList < sizeBound)
    (shortInserted : byteLength change.inserted.toList < sizeBound)
    : ∃ table,
        LineTable.ofText (String.ofList before ++ change.inserted ++ String.ofList after)
          = .ok table
        ∧ table.positionAt (change.offset + byteLength change.inserted.toList)
          = .ok (change.editBehind before).newStop.point := by
  have room := add_lt_offsetBound short shortInserted
  have length := cut.length_eq
  have whole : (String.ofList before ++ change.inserted ++ String.ofList after).toList
      = before ++ change.inserted.toList ++ after := by
    simp
  have bounded : byteLength (before ++ change.inserted.toList ++ after) + 1 < offsetBound := by
    rw [byteLength_append, byteLength_append, cut.offset]
    omega
  obtain ⟨table, made, indexes⟩ := LineTable.exists_ofText (whole ▸ bounded)
  refine ⟨table, made, ?_⟩
  rw [indexes.positionAt, ← cut.offset, ← byteLength_append, LineIndex.positionAt_eq_point whole]
  rfl

/-- A change that fits is applied in steps none of which breaks off: the span lies within the text,
and both texts together are shorter than the bound of offsets.
-/
theorem applyStepwise (cut : change.Cuts text before replaced after)
    (short : byteLength text.toList < sizeBound)
    (shortInserted : byteLength change.inserted.toList < sizeBound)
    : change.applyStepwise text = .ok (change.apply text) := by
  have room := add_lt_offsetBound short shortInserted
  have length := cut.length_eq
  have bounded : change.offset + change.length < offsetBound := by omega
  have within : ¬ byteLength text.toList < change.offset + change.length := by omega
  have boundaries : (!isBoundary text.toList change.offset
      || !isBoundary text.toList (change.offset + change.length)) = false := by
    simp [isBoundary, cut.splits.1, cut.splits.2]
  have kept : change.length ≤ byteLength text.toList := by omega
  have wanted : byteLength text.toList - change.length + byteLength change.inserted.toList
      < offsetBound := by
    omega
  have newStop : change.offset + byteLength change.inserted.toList < offsetBound := by omega
  obtain ⟨table, made, point⟩ := cut.exists_table short shortInserted
  have next : String.ofList before ++ change.inserted ++ String.ofList after
      = String.ofList (before ++ change.inserted.toList ++ after) := by
    apply String.toList_injective
    simp
  have edit : (⟨⟨change.offset, change.start⟩, ⟨change.offset + change.length, change.stop⟩,
        ⟨change.offset + byteLength change.inserted.toList,
          (change.editBehind before).newStop.point⟩⟩ : TreeEdit)
      = change.editBehind before := by
    have reached := cut.newStop
    rw [TextChange.newStop] at reached
    rw [← reached]
    rfl
  rw [next] at made
  rw [cut.apply bounded]
  simp only [TextChange.applyStepwise, sum?, if_pos bounded, if_neg within, boundaries,
    Bool.false_eq_true, if_false, sub_of_le kept, add_of_lt wanted, cut.slices, add_of_lt newStop,
    next, made, point, edit, bind, Except.bind, pure, Except.pure]
  cases (change.editBehind before).validate <;> rfl

end Cuts

/-- Step by step on words, a change does to a text what it does to it at once. -/
theorem applyStepwise_eq (short : byteLength text.toList < sizeBound)
    (shortInserted : byteLength change.inserted.toList < sizeBound)
    : change.applyStepwise text = .ok (change.apply text) := by
  by_cases fits : change.Fits text
  · obtain ⟨_, before, replaced, after, cut⟩ := fits_iff_cuts.mp fits
    exact cut.applyStepwise short shortInserted
  · exact applyStepwise_of_not_fits fits

/-- The offsets of the edit of a change are boundaries of the texts that they count in. -/
theorem boundaries_of_apply {next : String} {edit : TreeEdit}
    (applied : change.apply text = .ok (edit, next))
    : isBoundary text.toList edit.start.bytes = true
      ∧ isBoundary text.toList edit.oldStop.bytes = true
      ∧ isBoundary next.toList edit.start.bytes = true
      ∧ isBoundary next.toList edit.newStop.bytes = true := by
  obtain ⟨before, replaced, after, cut, _, _, rfl, rfl⟩ := apply_eq_ok_iff.mp applied
  have start : (change.editBehind before).start.bytes = byteLength before := cut.offset.symm
  have oldStop : (change.editBehind before).oldStop.bytes = byteLength (before ++ replaced) :=
    cut.stop.symm
  rw [start, oldStop, cut.whole, String.toList_ofList]
  refine ⟨?_, isBoundary_append _ _, ?_, isBoundary_append _ _⟩
  · rw [List.append_assoc]
    exact isBoundary_append _ _
  · rw [List.append_assoc]
    exact isBoundary_append _ _

/-- Whatever numbers a change comes with, it is applied step by step on words without breaking off,
if the text and what is to be inserted are of a size that texts have.  It is refused as an invalid
edit, or it gives the text with the span replaced and an edit that starts at the offset and ends where
the replaced and the inserted text do, at boundaries of the texts; never one that is not valid.
-/
theorem applyStepwise_neverBreaks (change : TextChange) (text : String)
    (short : byteLength text.toList < sizeBound)
    (shortInserted : byteLength change.inserted.toList < sizeBound)
    : ∃ result,
        change.applyStepwise text = .ok result
        ∧ change.apply text = result
        ∧ ((∃ edit next, result = .ok (edit, next)) ↔ change.Fits text ∧ change.InOrder text)
        ∧ ((∃ reason, result.mapError Failure.ofEdit = .error (.edit reason))
          ∨ ∃ edit next, result = .ok (edit, next))
        ∧ ∀ edit next, result = .ok (edit, next)
          → bytes next
              = (bytes text).take change.offset ++ bytes change.inserted
                ++ (bytes text).drop (change.offset + change.length)
            ∧ edit.start.bytes = change.offset
            ∧ edit.oldStop.bytes = edit.start.bytes + change.length
            ∧ edit.newStop.bytes = edit.start.bytes + byteLength change.inserted.toList
            ∧ edit.oldStop.bytes ≤ byteLength text.toList
            ∧ edit.newStop.bytes ≤ byteLength next.toList
            ∧ isBoundary text.toList edit.start.bytes = true
            ∧ isBoundary text.toList edit.oldStop.bytes = true
            ∧ isBoundary next.toList edit.start.bytes = true
            ∧ isBoundary next.toList edit.newStop.bytes = true
            ∧ edit.validate = .ok () := by
  refine ⟨change.apply text, applyStepwise_eq short shortInserted, rfl, applies_iff, ?_, ?_⟩
  · cases change.apply text with
    | error fault => exact .inl ⟨fault.message, rfl⟩
    | ok applied => exact .inr ⟨applied.1, applied.2, rfl⟩
  · intro edit next applied
    obtain ⟨start, oldStop, newStop, _⟩ := points_of_apply applied
    obtain ⟨first, second, third, fourth⟩ := boundaries_of_apply applied
    refine ⟨bytes_of_apply applied, by rw [start], by rw [oldStop, start],
      by rw [newStop, start, TextChange.newStop], le_of_isBoundary second,
      le_of_isBoundary fourth, first, second, third, fourth, valid_of_apply applied⟩

/-- The same numbers are refused where they reach beyond all words and applied where they fit: here
over a line feed, in a text with a character of several bytes.
-/
theorem applyStepwise_neverBreaks_lines
    : byteLength "aé\nb".toList < sizeBound
      ∧ byteLength "→".toList < sizeBound
      ∧ (∃ edit,
          (⟨⟨0, 1⟩, ⟨1, 0⟩, 1, 3, "→"⟩ : TextChange).applyStepwise "aé\nb"
            = .ok (.ok (edit, "a→b"))
          ∧ edit.newStop = ⟨4, ⟨0, 4⟩⟩)
      ∧ (⟨⟨0, 1⟩, ⟨1, 0⟩, 1, 18446744073709551615, "→"⟩ : TextChange).applyStepwise "aé\nb"
        = .ok (.error (.rangeOverflows 1 18446744073709551615)) := by
  have short : byteLength "aé\nb".toList < sizeBound := by decide
  have shortInserted : byteLength "→".toList < sizeBound := by decide
  obtain ⟨_, stepwise, applied, _⟩ :=
    applyStepwise_neverBreaks ⟨⟨0, 1⟩, ⟨1, 0⟩, 1, 3, "→"⟩ "aé\nb" short shortInserted
  obtain ⟨_, stepwise', applied', _⟩ :=
    applyStepwise_neverBreaks ⟨⟨0, 1⟩, ⟨1, 0⟩, 1, 18446744073709551615, "→"⟩ "aé\nb" short
      shortInserted
  refine ⟨short, shortInserted, ⟨⟨⟨1, ⟨0, 1⟩⟩, ⟨4, ⟨1, 0⟩⟩, ⟨4, ⟨0, 4⟩⟩⟩, ?_, rfl⟩, ?_⟩
  · rw [stepwise, ← applied]
    rfl
  · rw [stepwise', ← applied']
    rfl

end TextChange

end SyntaxExplorer
