import SyntaxExplorer.Parsing.Subtree
import SyntaxExplorer.Text.Change
/-!
Edits of trees.  An edited tree keeps its shape; what the edit touches is marked, and its extents are
those of the new text, so that the parser can tell what it may use again.
-/

namespace SyntaxExplorer.TreeEdit

/-- Numbers within trees are below this. -/
def treeOffsetBound : Nat := Nat.pow 2 32

def isPureInsertion (edit : TreeEdit) : Bool := edit.oldStop.bytes == edit.start.bytes

/-- Whether an edit changes nothing. -/
def isNoop (edit : TreeEdit) : Bool :=
  edit.isPureInsertion && edit.newStop.bytes == edit.start.bytes

/-- An edit as a tree sees it that starts at a place. -/
def seenFrom (place : Extent) (edit : TreeEdit) : TreeEdit :=
  ⟨edit.start.clampedSub place, edit.oldStop.clampedSub place, edit.newStop.clampedSub place⟩

/-- An edit with numbers as trees hold them. -/
def truncated (edit : TreeEdit) : TreeEdit :=
  let number (value : Nat) := value % treeOffsetBound
  let extent (extent : Extent) : Extent :=
    ⟨number extent.bytes, ⟨number extent.point.row, number extent.point.column⟩⟩
  ⟨extent edit.start, extent edit.oldStop, extent edit.newStop⟩

end SyntaxExplorer.TreeEdit

namespace SyntaxExplorer.Parsing

/-- The facts of a subtree after an edit that touches it. -/
def SubtreeFacts.edit (edit : TreeEdit) (facts : SubtreeFacts) : SubtreeFacts :=
  let total := facts.padding + facts.size
  let (padding, size) :=
    if edit.oldStop.bytes ≤ facts.padding.bytes then
      (edit.newStop + (facts.padding - edit.oldStop), facts.size)
    else if edit.start.bytes < facts.padding.bytes then
      (edit.newStop, facts.size.clampedSub (edit.oldStop - facts.padding))
    else if edit.start.bytes < total.bytes ||
        (edit.start.bytes == total.bytes && edit.isPureInsertion) then
      (facts.padding, (edit.newStop - facts.padding) + total.clampedSub edit.oldStop)
    else (facts.padding, facts.size)
  { facts with padding, size, hasChanges := true }

namespace Subtree

mutual

/-- A subtree after an edit, of which the places count from the start of the subtree. -/
def edit (change : TreeEdit) : Subtree → Subtree
  | .mk facts children =>
    let stop := facts.padding.bytes + facts.size.bytes + facts.lookaheadBytes
    if stop < change.start.bytes || (change.isNoop && change.start.bytes == stop) then
      .mk facts children
    else .mk (facts.edit change) (editForest change true .zero children)

/-- The children from a place on.  Inserted text goes to the first child that touches the edit; those
before the edit are only marked. -/
def editForest (change : TreeEdit) (isFirst : Bool) (left : Extent) : List Subtree → List Subtree
  | [] => []
  | child :: rest =>
    let right := left + child.total
    if right.bytes + child.facts.lookaheadBytes < change.start.bytes then
      child :: editForest change false right rest
    else if change.oldStop.bytes < left.bytes ||
        (left.bytes == change.oldStop.bytes && 0 < child.total.bytes && !isFirst) then
      child :: rest
    else
      let inner := change.seenFrom left
      if change.start.bytes < right.bytes ||
          (right.bytes == change.start.bytes && change.isPureInsertion) then
        child.edit inner ::
          editForest { change with newStop := change.start } false right rest
      else
        child.edit { inner with oldStop := inner.start, newStop := inner.start } ::
          editForest change false right rest

end

/-- A tree after an edit of its text. -/
def applyEdit (tree : Subtree) (change : TreeEdit) : Subtree := tree.edit change.truncated

end Subtree

end SyntaxExplorer.Parsing
