import SyntaxExplorer.Text.CharacterClass
import SyntaxExplorer.Text.LineIndex
/-!
Selections in a text: the word at a position, and the span between two positions.
-/

namespace SyntaxExplorer.Selection

/-- The punctuation that no word holds. -/
def punctuation : List Char := "\x60~!@#$%^&*()-=+[\x7b]\x7d\\|;:'\",.<>/?".toList

def isWordCharacter (c : Char) : Bool :=
  !CharacterClass.whiteSpace.contains c && !punctuation.contains c

/-- The maximal runs of word characters, as byte spans.  `start` is where the run at hand started, if
one is open at the offset. -/
def wordRuns (start : Option Nat) (offset : Nat) : List Char → List (Nat × Nat)
  | [] => (start.map (·, offset)).toList
  | c :: rest =>
    let next := offset + c.utf8Size
    if isWordCharacter c then wordRuns (some (start.getD offset)) next rest
    else (start.map (·, offset)).toList ++ wordRuns none next rest

/-- The span of the word that touches a position; right behind a word still touches it. -/
def wordAt? (text : String) (lines : LineIndex) (point : Point) : Option (Nat × Nat) := do
  let (start, stop) ← lines.span? point.row
  let line ← Text.slice? text start stop
  let column := min point.column (stop - start)
  let (first, last) ← (wordRuns none 0 line.toList).find? fun (first, last) =>
    first ≤ column && column ≤ last
  return (start + first, start + last)

/-- The span between two positions, in either order; of equal positions, the word there. -/
def span? (text : String) (lines : LineIndex) (anchor active : Point) : Option (Nat × Nat) := do
  if anchor = active then
    wordAt? text lines anchor
  else
    let (first, last) := if active.isBefore anchor then (active, anchor) else (anchor, active)
    return (← lines.offsetAt? first, ← lines.offsetAt? last)

end SyntaxExplorer.Selection
