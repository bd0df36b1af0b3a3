import SyntaxExplorer.Text.Bytes
import SyntaxExplorer.Text.Point
/-!
The lines of a text.  Offsets and positions of a text correspond one to one; a column beyond the end of
its line stands for that end, and an offset beyond the text for the end of the text.
-/

namespace SyntaxExplorer

/-- The byte lengths of the lines of a text, line feeds not counted.  Every text has a first line. -/
structure LineIndex where
  first : Nat
  rest : List Nat
  deriving BEq, DecidableEq, Repr, Inhabited

namespace LineIndex

def ofChars : List Char → LineIndex
  | [] => ⟨0, []⟩
  | c :: chars =>
    let lines := ofChars chars
    if c = '\n' then ⟨0, lines.first :: lines.rest⟩ else ⟨lines.first + c.utf8Size, lines.rest⟩

def ofText (text : String) : LineIndex := ofChars text.toList

def lineCount (lines : LineIndex) : Nat := lines.rest.length + 1

/-- The position of an offset, counted from the start of a row. -/
def locate (row offset length : Nat) : List Nat → Point
  | [] => ⟨row, min offset length⟩
  | next :: rest =>
    if offset ≤ length then ⟨row, offset⟩ else locate (row + 1) (offset - length - 1) next rest

/-- The position of an offset.  Offsets beyond the text have the position of its end. -/
def positionAt (lines : LineIndex) (offset : Nat) : Point := locate 0 offset lines.first lines.rest

/-- Where a row starts and ends, counted from the start of an earlier row. -/
def spanFrom (start length : Nat) : List Nat → Nat → Option (Nat × Nat)
  | _, 0 => some (start, start + length)
  | [], _ + 1 => none
  | next :: rest, row + 1 => spanFrom (start + length + 1) next rest row

/-- The offsets of the start and the end of a row, if the text has it. -/
def span? (lines : LineIndex) (row : Nat) : Option (Nat × Nat) :=
  spanFrom 0 lines.first lines.rest row

/-- The offset of the end of a row, before its line feed. -/
def lineEnd? (lines : LineIndex) (row : Nat) : Option Nat := (lines.span? row).map (·.2)

/-- The offset of a position, if the text has its row. -/
def offsetAt? (lines : LineIndex) (point : Point) : Option Nat :=
  (lines.span? point.row).map fun (start, stop) => min (start + point.column) stop

end LineIndex

end SyntaxExplorer
