import SyntaxExplorer.Text.Change
import SyntaxExplorer.Text.LineTable
import SyntaxExplorer.Text.Selection
/-!
Changes of texts and selections in them, step by step on words.
-/

namespace SyntaxExplorer

open Words

/-- Applies a change to a text.  Room for the new text is made before it is put together. -/
def TextChange.applyStepwise (change : TextChange) (text : String) :
    Checked (Except EditFault (TreeEdit × String)) := do
  let length := Text.byteLength text.toList
  let insertedLength := Text.byteLength change.inserted.toList
  let some stop := sum? change.offset change.length
    | return .error (.rangeOverflows change.offset change.length)
  if length < stop then
    return .error (.rangeBeyondText change.offset stop length)
  if !Text.isBoundary text.toList change.offset || !Text.isBoundary text.toList stop then
    return .error (.rangeSplitsCharacter change.offset stop)
  let _room ← add (← sub length change.length) insertedLength
  let before ← slice text 0 change.offset
  let after ← slice text stop length
  let next := before ++ change.inserted ++ after
  let newStop ← add change.offset insertedLength
  let table ← LineTable.ofText next
  let edit : TreeEdit := {
    start := ⟨change.offset, change.start⟩
    oldStop := ⟨stop, change.stop⟩
    newStop := ⟨newStop, ← table.positionAt newStop⟩ }
  return edit.validate.map fun _ => (edit, next)

namespace Selection

/-- The span of the word that touches a position; right behind a word still touches it. -/
def wordStepwise (text : String) (table : LineTable) (point : Point) :
    Checked (Option (Nat × Nat)) := do
  let some start ← table.offsetAt ⟨point.row, 0⟩ | return none
  let some stop ← table.lineEnd point.row | return none
  let column := min point.column (← sub stop start)
  let line ← slice text start stop
  let touched := (wordRuns none 0 line.toList).find? fun (first, last) =>
    first ≤ column && column ≤ last
  let some (first, last) := touched | return none
  return some (← add start first, ← add start last)

/-- The span between two positions, in either order; of equal positions, the word there. -/
def spanStepwise (text : String) (table : LineTable) (anchor active : Point) :
    Checked (Option (Nat × Nat)) := do
  if anchor = active then
    wordStepwise text table anchor
  else
    let (first, last) := if active.isBefore anchor then (active, anchor) else (anchor, active)
    let some start ← table.offsetAt first | return none
    let some stop ← table.offsetAt last | return none
    return some (start, stop)

/-- The positions of both ends of the span of a selection in a text. -/
def endsStepwise (text : String) (anchor active : Point) : Checked (Option (Point × Point)) := do
  let table ← LineTable.ofText text
  let some (start, stop) ← spanStepwise text table anchor active | return none
  return some (← table.positionAt start, ← table.positionAt stop)

end Selection

end SyntaxExplorer
