import SyntaxExplorer.Text.Point
import SyntaxExplorer.Text.Words
/-!
The lines of a text as a table of the offsets where they start, searched by halves.
-/

namespace SyntaxExplorer

open Words

structure LineTable where
  starts : Array Nat
  /-- The number of bytes of the text. -/
  length : Nat
  deriving BEq, DecidableEq, Repr

namespace LineTable

/-- The offsets of the line feeds among some characters, the first of which has an offset itself. -/
def lineFeeds (offset : Nat) : List Char → List Nat
  | [] => []
  | c :: rest =>
    let later := lineFeeds (offset + c.utf8Size) rest
    if c = '\n' then offset :: later else later

def ofText (text : String) : Checked LineTable := do
  let chars := text.toList
  let starts ← (lineFeeds 0 chars).mapM (add · 1)
  return ⟨(0 :: starts).toArray, Text.byteLength chars⟩

def lineCount (table : LineTable) : Nat := table.starts.size

/-- The place of an offset among offsets in order, from one place up to another; or else the place
where it would have to be put in. -/
def search (starts : Array Nat) (offset low high : Nat) (within : high ≤ starts.size) :
    Except Nat Nat :=
  if _ : low < high then
    let middle := low + (high - low) / 2
    have : middle < starts.size := by omega
    if starts[middle] = offset then .ok middle
    else if starts[middle] < offset then search starts offset (middle + 1) high within
    else search starts offset low middle (by omega)
  else .error low
termination_by high - low

/-- The position of an offset.  Offsets beyond the text have the position of its end. -/
def positionAt (table : LineTable) (offset : Nat) : Checked Point := do
  let offset := min offset table.length
  let row ← match search table.starts offset 0 table.starts.size (Nat.le_refl _) with
    | .ok row => pure row
    | .error next => sub next 1
  let start ← entry table.starts row
  return ⟨row, ← sub offset start⟩

/-- The offset of the end of a row, before its line feed. -/
def lineEnd (table : LineTable) (row : Nat) : Checked (Option Nat) := do
  if table.starts.size ≤ row then return none
  match table.starts[← add row 1]? with
  | some next => return some (← sub next 1)
  | none => return some table.length

/-- The offset of a position, if the text has its row. -/
def offsetAt (table : LineTable) (point : Point) : Checked (Option Nat) := do
  let some start := table.starts[point.row]? | return none
  let some stop ← table.lineEnd point.row | return none
  return some (min (saturatingAdd start point.column) stop)

end LineTable

end SyntaxExplorer
