/-!
Sets of code points, held as ascending ranges that neither overlap nor touch.  Patterns are written
with these sets, and the lexical automaton splits its transitions by intersecting them.
-/

namespace SyntaxExplorer.Lexical

/-- An inclusive range of code points. -/
structure CodeRange where
  low : Nat
  high : Nat
  deriving BEq, DecidableEq, Hashable, Repr, Inhabited

/-- A set of code points as ascending, separated ranges. -/
structure CharSet where
  ranges : List CodeRange
  deriving BEq, DecidableEq, Hashable, Repr, Inhabited

namespace CharSet

/-- The greatest code point. -/
def maxCodePoint : Nat := 0x10FFFF

def empty : CharSet := ⟨[]⟩

def isEmpty (set : CharSet) : Bool := set.ranges.isEmpty

/-- Joins ascending ranges that overlap or touch, so that one set has one form. -/
def coalesce : CodeRange → List CodeRange → List CodeRange
  | current, [] => [current]
  | current, next :: rest =>
    if next.low ≤ current.high + 1 then
      coalesce ⟨current.low, max current.high next.high⟩ rest
    else
      current :: coalesce next rest

/-- The set of all code points in some ascending ranges. -/
def ofAscending : List CodeRange → CharSet
  | [] => empty
  | first :: rest => ⟨coalesce first rest⟩

/-- The set of all code points in some ranges, in any order. -/
def ofRanges (ranges : List (Nat × Nat)) : CharSet :=
  ofAscending <|
    (ranges.map fun (low, high) => ⟨low, high⟩).mergeSort fun left right => left.low ≤ right.low

def singleton (c : Char) : CharSet := ⟨[⟨c.toNat, c.toNat⟩]⟩

/-- The code points of a text. -/
def ofString (text : String) : CharSet :=
  ofRanges (text.toList.map fun c => (c.toNat, c.toNat))

def range (low high : Char) : CharSet := ⟨[⟨low.toNat, high.toNat⟩]⟩

/-- Two ascending lists of ranges as one. -/
def mergeRanges : List CodeRange → List CodeRange → List CodeRange
  | [], right => right
  | left, [] => left
  | a :: left, b :: right =>
    if a.low ≤ b.low then a :: mergeRanges left (b :: right)
    else b :: mergeRanges (a :: left) right
  termination_by left right => left.length + right.length

def union (left right : CharSet) : CharSet :=
  ofAscending (mergeRanges left.ranges right.ranges)

/-- The ranges between `low` and the greatest code point that some ascending ranges leave out. -/
def complementFrom (low : Nat) : List CodeRange → List CodeRange
  | [] => if low ≤ maxCodePoint then [⟨low, maxCodePoint⟩] else []
  | range :: rest =>
    if low < range.low then ⟨low, range.low - 1⟩ :: complementFrom (range.high + 1) rest
    else complementFrom (range.high + 1) rest

def complement (set : CharSet) : CharSet := ⟨complementFrom 0 set.ranges⟩

/-- The ranges that two ascending lists of ranges have in common. -/
def intersectRanges : List CodeRange → List CodeRange → List CodeRange
  | [], _ => []
  | _, [] => []
  | a :: left, b :: right =>
    if a.high < b.low then intersectRanges left (b :: right)
    else if b.high < a.low then intersectRanges (a :: left) right
    else if a.high ≤ b.high then
      ⟨max a.low b.low, a.high⟩ :: intersectRanges left (b :: right)
    else
      ⟨max a.low b.low, b.high⟩ :: intersectRanges (a :: left) right
  termination_by left right => left.length + right.length

def intersection (left right : CharSet) : CharSet :=
  ⟨intersectRanges left.ranges right.ranges⟩

/-- The ranges of the first list without those of the second. -/
def subtractRanges : List CodeRange → List CodeRange → List CodeRange
  | [], _ => []
  | left, [] => left
  | a :: left, b :: right =>
    if a.high < b.low then a :: subtractRanges left (b :: right)
    else if b.high < a.low then subtractRanges (a :: left) right
    else
      let before := if a.low < b.low then [⟨a.low, b.low - 1⟩] else []
      if a.high ≤ b.high then before ++ subtractRanges left (b :: right)
      else before ++ subtractRanges (⟨b.high + 1, a.high⟩ :: left) right
  termination_by left right => left.length + right.length

def difference (left right : CharSet) : CharSet :=
  ⟨subtractRanges left.ranges right.ranges⟩

/-- Whether two ascending lists of ranges share a code point. -/
def meetsRanges : List CodeRange → List CodeRange → Bool
  | [], _ => false
  | _, [] => false
  | a :: left, b :: right =>
    if a.high < b.low then meetsRanges left (b :: right)
    else if b.high < a.low then meetsRanges (a :: left) right
    else true
  termination_by left right => left.length + right.length

def meets (left right : CharSet) : Bool := meetsRanges left.ranges right.ranges

def contains (set : CharSet) (codePoint : Nat) : Bool :=
  set.ranges.any fun range => range.low ≤ codePoint && codePoint ≤ range.high

/-- Every code point but those of a text. -/
def noneOf (text : String) : CharSet := (ofString text).complement

end CharSet

end SyntaxExplorer.Lexical
