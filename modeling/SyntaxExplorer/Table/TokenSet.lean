/-!
Sets of small numbers, held as the bits of one number.
-/

namespace SyntaxExplorer.Table

/-- A set of symbols by their numbers. -/
structure TokenSet where
  bits : Nat := 0
  deriving BEq, DecidableEq, Repr, Inhabited

namespace TokenSet

instance : Hashable TokenSet where
  hash set :=
    mixHash (hash (set.bits % Nat.pow 2 64)) <|
      mixHash (hash ((set.bits >>> 64) % Nat.pow 2 64)) (hash (set.bits >>> 128))

def empty : TokenSet := {}

def singleton (number : Nat) : TokenSet := ⟨1 <<< number⟩

def union (left right : TokenSet) : TokenSet := ⟨left.bits ||| right.bits⟩

def insert (set : TokenSet) (number : Nat) : TokenSet := set.union (singleton number)

def contains (set : TokenSet) (number : Nat) : Bool := set.bits.testBit number

def isEmpty (set : TokenSet) : Bool := set.bits == 0

def ofList (numbers : List Nat) : TokenSet := numbers.foldl insert empty

/-- The members below `bound`, ascending. -/
def below (set : TokenSet) (bound : Nat) : List Nat :=
  (List.range bound).filter set.contains

end TokenSet

end SyntaxExplorer.Table
