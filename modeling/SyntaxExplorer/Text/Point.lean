/-!
Positions in a text as a line and a byte within the line, both counted from zero.
-/

namespace SyntaxExplorer

/-- A row, and a column in bytes. -/
structure Point where
  row : Nat
  column : Nat
  deriving BEq, ReflBEq, LawfulBEq, DecidableEq, Hashable, Repr, Inhabited

namespace Point

def origin : Point := ⟨0, 0⟩

/-- Rows first, then columns. -/
def isBefore (left right : Point) : Bool :=
  left.row < right.row || (left.row == right.row && left.column < right.column)

end Point

end SyntaxExplorer
