import SyntaxExplorer.Text.CharacterClass
/-!
Regular expressions, as what they match: from a place in a text, the places where a match may end.
-/

namespace SyntaxExplorer

/-- What must hold at a place between characters. -/
inductive Anchor
  | textStart
  | textEnd
  | lineStart
  | lineEnd
  | wordBoundary
  | noWordBoundary
  | wordStart
  | wordEnd
  deriving BEq, DecidableEq, Repr

namespace Anchor

/-- Whether an anchor holds at a place of a text. -/
def holds (text : Array Char) (place : Nat) (anchor : Anchor) : Bool :=
  let before : Option Char := if place = 0 then none else text[place - 1]?
  let after : Option Char := text[place]?
  let wordBefore := before.any CharacterClass.word.contains
  let wordAfter := after.any CharacterClass.word.contains
  match anchor with
  | textStart => before.isNone
  | textEnd => after.isNone
  | lineStart => before.isNone || before == some '\n'
  | lineEnd => after.isNone || after == some '\n'
  | wordBoundary => wordBefore != wordAfter
  | noWordBoundary => wordBefore == wordAfter
  | wordStart => !wordBefore && wordAfter
  | wordEnd => wordBefore && !wordAfter

end Anchor

inductive Regex
  | empty
  | one (accepts : Char → Bool)
  | anchor (kind : Anchor)
  | seq (first second : Regex)
  | either (left right : Regex)
  /-- So many times in a row; any number of times if there is no most. -/
  | repeated (inner : Regex) (least : Nat) (most : Option Nat)

namespace Regex

/-- The places after so many steps from some places. -/
def afterSteps (step : Nat → List Nat) : Nat → List Nat → List Nat
  | 0, places => places
  | count + 1, places => afterSteps step count (places.flatMap step).eraseDups

/-- The places that at most so many steps lead to. -/
def withinSteps (step : Nat → List Nat) : Nat → List Nat → List Nat → List Nat
  | 0, known, _ => known
  | count + 1, known, latest =>
    let fresh := (latest.flatMap step).eraseDups.filter (!known.contains ·)
    if fresh.isEmpty then known else withinSteps step count (known ++ fresh) fresh

/-- The places where a match that starts at a place may end. -/
def ends (text : Array Char) : Regex → Nat → List Nat
  | empty, place => [place]
  | one accepts, place => if (text[place]?).any accepts then [place + 1] else []
  | anchor kind, place => if kind.holds text place then [place] else []
  | seq first second, place => ((first.ends text place).flatMap (second.ends text)).eraseDups
  | either left right, place => (left.ends text place ++ right.ends text place).eraseDups
  | repeated inner least most, place =>
    let start := afterSteps (inner.ends text) least [place]
    let more := (most.map (· - least)).getD (text.size + 1)
    withinSteps (inner.ends text) more start start

/-- Whether a match is found anywhere in a text. -/
def matchesIn (regex : Regex) (text : String) : Bool :=
  let chars := text.toList.toArray
  (List.range (chars.size + 1)).any fun place => !(regex.ends chars place).isEmpty

end Regex

end SyntaxExplorer
