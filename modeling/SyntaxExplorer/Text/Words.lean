import SyntaxExplorer.Text.Bytes
/-!
Arithmetic on words of 64 bits, which offsets and lengths are.  A computation breaks off where its
result is no word, and where it reaches for what is not there.
-/

namespace SyntaxExplorer

/-- Offsets and lengths are below this. -/
def offsetBound : Nat := Nat.pow 2 64

/-- Texts have fewer bytes than this. -/
def sizeBound : Nat := Nat.pow 2 63

namespace Words

/-- Why a computation on words breaks off. -/
inductive Breach
  | overflow (left right : Nat)
  | underflow (left right : Nat)
  | beyondEnd (index : Nat)
  | misplacedSlice (start stop : Nat)
  deriving BEq, DecidableEq, Repr

/-- What comes of a computation on words. -/
abbrev Checked (α : Type) := Except Breach α

/-- The sum of two words, if it is one. -/
def sum? (left right : Nat) : Option Nat :=
  if left + right < offsetBound then some (left + right) else none

def add (left right : Nat) : Checked Nat :=
  match sum? left right with
  | some sum => .ok sum
  | none => .error (.overflow left right)

def sub (left right : Nat) : Checked Nat :=
  if right ≤ left then .ok (left - right) else .error (.underflow left right)

/-- The sum of two words, or the greatest word if it is none. -/
def saturatingAdd (left right : Nat) : Nat := (sum? left right).getD (offsetBound - 1)

def entry {α : Type} (entries : Array α) (index : Nat) : Checked α :=
  match entries[index]? with
  | some value => .ok value
  | none => .error (.beyondEnd index)

/-- The part of a text between two offsets. -/
def slice (text : String) (start stop : Nat) : Checked String :=
  match Text.slice? text start stop with
  | some part => .ok part
  | none => .error (.misplacedSlice start stop)

/-- The part of a text from an offset on, sliced only where the offset cuts no character. -/
def sliceFrom (text : String) (start : Nat) : Checked (Option String) :=
  if Text.isBoundary text.toList start then
    (slice text start (Text.byteLength text.toList)).map some
  else .ok none

end Words

end SyntaxExplorer
