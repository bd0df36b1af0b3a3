/-!
The colors of captures.  Names get colors in the order in which they are first seen.
-/

namespace SyntaxExplorer

/-- The first color, and the others. -/
def palette : List String := [
  "#80cbc4", "#ffb757", "#e0b8ff", "#ff9492", "#56d364", "#a5d6ff", "#ffa198", "#d2a8ff",
  "#ff7b72", "#7ee787", "#ffa657", "#9ca3af", "#79c0ff"]

/-- The names that have a color, in the order in which they were first seen. -/
structure ColorAssigner where
  names : List String := []
  deriving BEq, DecidableEq, Repr, Inhabited

namespace ColorAssigner

/-- The color of the name at a place; the palette starts over at its end. -/
def colorAt (index : Nat) : String := palette[index % palette.length]?.getD ""

/-- The color of a name, which from now on has it. -/
def assign (colors : ColorAssigner) (name : String) : String × ColorAssigner :=
  match colors.names.idxOf? name with
  | some index => (colorAt index, colors)
  | none => (colorAt colors.names.length, ⟨colors.names ++ [name]⟩)

/-- An assigner that has forgotten its names. -/
def reset (_ : ColorAssigner) : ColorAssigner := {}

def count (colors : ColorAssigner) : Nat := colors.names.length

def isEmpty (colors : ColorAssigner) : Bool := colors.names.isEmpty

end ColorAssigner

end SyntaxExplorer
