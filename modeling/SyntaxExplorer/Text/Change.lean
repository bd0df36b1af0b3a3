import SyntaxExplorer.Text.Extent
import SyntaxExplorer.Text.LineIndex
import SyntaxExplorer.Text.Words
/-!
Changes of a text.  A change as an editor reports it names the replaced span by offsets and by
positions; applied to the text it gives the new text, and an edit that carries a tree along.
-/

namespace SyntaxExplorer

/-- A change reported by an editor: a span of the text before it, and what takes its place. -/
structure TextChange where
  start : Point
  stop : Point
  offset : Nat
  length : Nat
  inserted : String
  deriving BEq, DecidableEq, Repr, Inhabited

/-- An edit of a tree: where the change starts, where the replaced text ended, and where the new text
ends. -/
structure TreeEdit where
  start : Extent
  oldStop : Extent
  newStop : Extent
  deriving BEq, DecidableEq, Repr, Inhabited

/-- Why a change cannot be applied. -/
inductive EditFault
  | rangeOverflows (offset length : Nat)
  | rangeBeyondText (start stop length : Nat)
  | rangeSplitsCharacter (start stop : Nat)
  | endsBeforeStart (start oldStop newStop : Nat)
  | positionsOutOfOrder (start oldStop newStop : Point)
  deriving BEq, DecidableEq, Repr

def Point.render (point : Point) : String :=
  s!"Point \x7b row: {point.row}, column: {point.column} \x7d"

def EditFault.message : EditFault → String
  | rangeOverflows offset length => s!"range overflows: offset={offset} length={length}"
  | rangeBeyondText start stop length => s!"range {start}..{stop} exceeds text length {length}"
  | rangeSplitsCharacter start stop => s!"range {start}..{stop} splits a character"
  | endsBeforeStart start oldStop newStop =>
    s!"edit ends before it starts: start={start} old_end={oldStop} new_end={newStop}"
  | positionsOutOfOrder start oldStop newStop =>
    s!"edit positions out of order: start={start.render} old_end={oldStop.render} " ++
      s!"new_end={newStop.render}"

namespace TreeEdit

/-- An edit must not end before it starts, neither by offsets nor by positions. -/
def validate (edit : TreeEdit) : Except EditFault Unit :=
  if edit.oldStop.bytes < edit.start.bytes || edit.newStop.bytes < edit.start.bytes then
    .error (.endsBeforeStart edit.start.bytes edit.oldStop.bytes edit.newStop.bytes)
  else if edit.oldStop.point.isBefore edit.start.point ||
      edit.newStop.point.isBefore edit.start.point then
    .error (.positionsOutOfOrder edit.start.point edit.oldStop.point edit.newStop.point)
  else .ok ()

end TreeEdit

namespace TextChange

/-- The offset of the end of the inserted text. -/
def newStop (change : TextChange) : Nat :=
  change.offset + Text.byteLength change.inserted.toList

/-- The change that an editor reports for replacing a span of a text. -/
def ofSpan (text : String) (offset length : Nat) (inserted : String) : TextChange :=
  let lines := LineIndex.ofText text
  ⟨lines.positionAt offset, lines.positionAt (offset + length), offset, length, inserted⟩

/-- Applies a change to a text: the edit of a tree of the text, and the new text. -/
def apply (change : TextChange) (text : String) : Except EditFault (TreeEdit × String) := do
  let stop := change.offset + change.length
  if offsetBound ≤ stop then
    throw (.rangeOverflows change.offset change.length)
  let chars := text.toList
  if Text.byteLength chars < stop then
    throw (.rangeBeyondText change.offset stop (Text.byteLength chars))
  match Text.splitAt? chars change.offset, Text.splitAt? chars stop with
  | some (before, _), some (_, after) =>
    let newChars := before ++ change.inserted.toList ++ after
    let edit : TreeEdit := {
      start := ⟨change.offset, change.start⟩
      oldStop := ⟨stop, change.stop⟩
      newStop := ⟨change.newStop, (LineIndex.ofChars newChars).positionAt change.newStop⟩ }
    edit.validate
    return (edit, String.ofList newChars)
  | _, _ => throw (.rangeSplitsCharacter change.offset stop)

/-- Applies changes to a text, each to what the one before it left: the edits of a tree of the text,
and the last text. -/
def applyEach : List TextChange → String → Except EditFault (List TreeEdit × String)
  | [], text => return ([], text)
  | change :: rest, text => do
    let (edit, text) ← change.apply text
    let (edits, text) ← applyEach rest text
    return (edit :: edits, text)

end TextChange

end SyntaxExplorer
