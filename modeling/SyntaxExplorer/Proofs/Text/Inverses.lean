import SyntaxExplorer.Failure
import SyntaxExplorer.Proofs.Text.EditPositions

/-! Changes of spans and the changes that take them back.  A change of a span applies exactly if the
span fits the text; taking it back cuts the new text where the change has cut the old one.
-/

namespace SyntaxExplorer

open Text

/-- The edit that goes the other way: the old end and the new end change places. -/
def TreeEdit.reversed (edit : TreeEdit) : TreeEdit := ⟨edit.start, edit.newStop, edit.oldStop⟩

/-- An edit is valid in both directions or in neither. -/
@[simp]
theorem TreeEdit.validate_reversed {edit : TreeEdit}
    : edit.reversed.validate = .ok () ↔ edit.validate = .ok () := by
  simp only [validate_eq_ok_iff, reversed]
  constructor
  · rintro ⟨newStop, stop, newPoint, point⟩
    exact ⟨stop, newStop, point, newPoint⟩
  · rintro ⟨stop, newStop, point, newPoint⟩
    exact ⟨newStop, stop, newPoint, point⟩

namespace TextChange

/-- The change that puts back what a change has replaced, as an editor reports it of the new text. -/
def takenBack (change : TextChange) (next replaced : String) : TextChange :=
  ofSpan next change.offset (byteLength change.inserted.toList) replaced

/-- The changes of spans are positioned. -/
theorem isPositioned_ofSpan (text : String) (offset length : Nat) (inserted : String)
    : (ofSpan text offset length inserted).IsPositioned text :=
  ⟨rfl, rfl⟩

/-- A change within the bound of offsets fits exactly if its span lies within the text and between
characters.
-/
theorem fits_iff_within {change : TextChange} {text : String}
    (bounded : change.offset + change.length < offsetBound)
    : change.Fits text
      ↔ change.offset + change.length ≤ byteLength text.toList
        ∧ isBoundary text.toList change.offset = true
        ∧ isBoundary text.toList (change.offset + change.length) = true := by
  constructor
  · intro fits
    obtain ⟨_, before, replaced, after, cut⟩ := fits_iff_cuts.mp fits
    refine ⟨?_, fits.start, fits.stop⟩
    rw [cut.whole, byteLength_append, cut.stop]
    exact Nat.le_add_right _ _
  · rintro ⟨_, start, stop⟩
    exact ⟨bounded, start, stop⟩

/-- A change within the bound of offsets that does not fit is refused for that, before its edit is
made.
-/
theorem apply_of_not_fits {change : TextChange} {text : String}
    (bounded : change.offset + change.length < offsetBound) (misplaced : ¬ change.Fits text)
    : change.apply text = .error (change.misfit text) :=
  (hasFault_misfit bounded misplaced).apply

namespace Cuts

variable {change : TextChange} {text : String} {before replaced after : List Char}

/-- The part of the text in the span of a cut is what it replaces. -/
theorem slice?_eq (cut : change.Cuts text before replaced after)
    : slice? text change.offset (change.offset + change.length)
      = some (String.ofList replaced) := by
  have within : splitAt? (replaced ++ after) change.length = some (replaced, after) :=
    splitAt?_eq_some_iff.mpr ⟨rfl, cut.length⟩
  simp [slice?, cut.splits.1, within]

/-- Taking a change back cuts the new text where the change has cut the old one. -/
theorem takenBack {next : String} (cut : change.Cuts text before replaced after)
    (whole : next.toList = before ++ change.inserted.toList ++ after)
    : (change.takenBack next (String.ofList replaced)).Cuts next before change.inserted.toList
        after where
  whole := whole
  offset := cut.offset
  length := rfl

/-- The edit of taking a positioned change back is that of the change, the other way. -/
theorem editBehind_takenBack {next : String} (cut : change.Cuts text before replaced after)
    (positioned : change.IsPositioned text)
    (whole : next.toList = before ++ change.inserted.toList ++ after)
    : (change.takenBack next (String.ofList replaced)).editBehind before
      = (change.editBehind before).reversed := by
  rw [(cut.takenBack whole).editBehind_eq (isPositioned_ofSpan _ _ _ _),
    cut.editBehind_eq positioned]
  simp only [TextChange.takenBack, ofSpan, String.toList_ofList, TreeEdit.reversed]

/-- A positioned change that cuts the text is taken back whole, provided that the inserted text
ends within the bound of offsets.
-/
theorem apply_takenBack {next : String} (cut : change.Cuts text before replaced after)
    (positioned : change.IsPositioned text) (bounded : change.newStop < offsetBound)
    (valid : (change.editBehind before).validate = .ok ())
    (whole : next.toList = before ++ change.inserted.toList ++ after)
    : (change.takenBack next (String.ofList replaced)).apply next
      = .ok ((change.editBehind before).reversed, text) := by
  have restored : text = String.ofList
      (before ++ (change.takenBack next (String.ofList replaced)).inserted.toList ++ after) := by
    apply String.toList_injective
    simp only [TextChange.takenBack, ofSpan, String.toList_ofList]
    exact cut.whole
  refine apply_eq_ok_iff.mpr
    ⟨before, change.inserted.toList, after, cut.takenBack whole, bounded, ?_, ?_, restored⟩
  · rw [cut.editBehind_takenBack positioned whole]
    exact TreeEdit.validate_reversed.mpr valid
  · exact (cut.editBehind_takenBack positioned whole).symm

end Cuts

/-- A positioned change that applies starts at the same position in the text before it and in that
after it, as what stays before it is the same.
-/
theorem start_of_apply {change : TextChange} {text next : String} {edit : TreeEdit}
    (applied : change.apply text = .ok (edit, next)) (positioned : change.IsPositioned text)
    : change.start = (LineIndex.ofText next).positionAt change.offset := by
  obtain ⟨before, replaced, after, cut, _, _, _, rfl⟩ := apply_eq_ok_iff.mp applied
  rw [positioned.1, cut.positionAt_offset, ← cut.offset]
  have whole : (String.ofList (before ++ change.inserted.toList ++ after)).toList
      = before ++ (change.inserted.toList ++ after) := by
    rw [String.toList_ofList, List.append_assoc]
  exact (LineIndex.positionAt_eq_point whole).symm

/-- A positioned change that applies can be taken back, with the part that it has replaced, exactly
if the inserted text ends within the bound of offsets.
-/
theorem apply_takenBack_iff {change : TextChange} {text next : String} {edit : TreeEdit}
    (applied : change.apply text = .ok (edit, next)) (positioned : change.IsPositioned text)
    : ∃ replaced,
        slice? text change.offset (change.offset + change.length) = some replaced
        ∧ ((change.takenBack next replaced).apply next = .ok (edit.reversed, text)
          ↔ change.newStop < offsetBound) := by
  obtain ⟨before, replaced, after, cut, _, valid, rfl, rfl⟩ := apply_eq_ok_iff.mp applied
  refine ⟨String.ofList replaced, cut.slice?_eq, ?_, ?_⟩
  · intro undone
    exact (cuts_of_apply undone).1
  · intro bounded
    exact cut.apply_takenBack positioned bounded valid String.toList_ofList

/-- The changes that an editor makes of spans are accepted exactly if the spans lie within the text
and between characters; else they are told as invalid edits, for the span and not for the order of
their positions.  An accepted change starts at the same position in both texts, and it can be taken
back: the change that puts the replaced part in the place of the inserted one has the edit with the
ends exchanged and leaves the text as it was.  As any change, it must end within the bound of
offsets.
-/
theorem ofSpan_applies_iff_fits (text : String) (offset length : Nat) (inserted : String)
    (bounded : offset + length < offsetBound)
    : let change := ofSpan text offset length inserted
      let fits := offset + length ≤ byteLength text.toList
        ∧ isBoundary text.toList offset = true
        ∧ isBoundary text.toList (offset + length) = true
      ((∃ edit next, change.apply text = .ok (edit, next)) ↔ fits)
      ∧ (¬ fits
        → (change.apply text).mapError Failure.ofEdit
          = .error (.edit (change.misfit text).message))
      ∧ ∀ edit next, change.apply text = .ok (edit, next)
        → edit.start = ⟨offset, change.start⟩
          ∧ change.start = (LineIndex.ofText next).positionAt offset
          ∧ edit.validate = .ok ()
          ∧ ∃ replaced,
              slice? text offset (offset + length) = some replaced
              ∧ ((ofSpan next offset (byteLength inserted.toList) replaced).apply next
                  = .ok (⟨edit.start, edit.newStop, edit.oldStop⟩, text)
                ↔ offset + byteLength inserted.toList < offsetBound) := by
  intro change fits
  have positioned : change.IsPositioned text := isPositioned_ofSpan text offset length inserted
  have within : change.Fits text ↔ fits := fits_iff_within bounded
  refine ⟨?_, ?_, ?_⟩
  · rw [applies_iff, ← within]
    exact ⟨And.left, fun fitting => ⟨fitting, positioned.inOrder fitting⟩⟩
  · intro misplaced
    rw [apply_of_not_fits bounded (mt within.mp misplaced)]
    rfl
  · intro edit next applied
    refine ⟨(points_of_apply applied).1, ?_, valid_of_apply applied,
      apply_takenBack_iff applied positioned⟩
    exact start_of_apply applied positioned

/-- A span over a line break and a character of several bytes, replaced by others of both and put
back.
-/
theorem ofSpan_applies_iff_fits_lines
    : 1 + 3 < offsetBound
      ∧ ∃ edit,
          (ofSpan "aé\nb" 1 3 "\n→").apply "aé\nb" = .ok (edit, "a\n→b")
          ∧ (ofSpan "a\n→b" 1 4 "é\n").apply "a\n→b"
            = .ok (⟨edit.start, edit.newStop, edit.oldStop⟩, "aé\nb") := by
  have bounded : 1 + 3 < offsetBound := by decide
  have applied : (ofSpan "aé\nb" 1 3 "\n→").apply "aé\nb"
      = .ok (⟨⟨1, ⟨0, 1⟩⟩, ⟨4, ⟨1, 0⟩⟩, ⟨5, ⟨1, 3⟩⟩⟩, "a\n→b") := by
    rfl
  obtain ⟨_, _, accepted⟩ := ofSpan_applies_iff_fits "aé\nb" 1 3 "\n→" bounded
  obtain ⟨_, _, _, replaced, sliced, undone⟩ := accepted _ _ applied
  have part : slice? "aé\nb" 1 (1 + 3) = some "é\n" := by decide
  obtain rfl : replaced = "é\n" := Option.some.inj (sliced.symm.trans part)
  exact ⟨bounded, _, applied, undone.mpr (by decide)⟩

end TextChange

end SyntaxExplorer
