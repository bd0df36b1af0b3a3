import SyntaxExplorer.Lexical.CharSet
/-!
Patterns of token texts: the regular expressions that grammars write their tokens with.
-/

namespace SyntaxExplorer.Lexical

/-- A regular expression over code points. -/
inductive Pattern
  | empty
  | one (set : CharSet)
  | seq (first second : Pattern)
  | either (left right : Pattern)
  | oneOrMore (inner : Pattern)
  deriving BEq, DecidableEq, Hashable, Repr, Inhabited

namespace Pattern

/-- The pattern that matches one text. -/
def text (literal : String) : Pattern :=
  literal.toList.foldr
    (fun c rest => if rest == .empty then .one (.singleton c) else .seq (.one (.singleton c)) rest)
    .empty

/-- Patterns one after another. -/
def all : List Pattern → Pattern
  | [] => .empty
  | [last] => last
  | first :: rest => .seq first (all rest)

/-- Any one of several patterns. -/
def any : List Pattern → Pattern
  | [] => .empty
  | [last] => last
  | first :: rest => .either first (any rest)

def optional (inner : Pattern) : Pattern := .either inner .empty

def many (inner : Pattern) : Pattern := .optional (.oneOrMore inner)

/-- Between `low` and `low + spare` copies of a pattern. -/
def between (low spare : Nat) (inner : Pattern) : Pattern :=
  .all (List.replicate low inner ++ List.replicate spare inner.optional)

def oneOf (chars : String) : Pattern := .one (.ofString chars)

def noneOf (chars : String) : Pattern := .one (.noneOf chars)

/-- A code point in one of some ranges. -/
def within (ranges : List (Char × Char)) : Pattern :=
  .one (.ofRanges (ranges.map fun (low, high) => (low.toNat, high.toNat)))

def digit : Pattern := within [('0', '9')]

def hexDigit : Pattern := within [('0', '9'), ('a', 'f'), ('A', 'F')]

/-- Any code point but a line feed. -/
def notLineFeed : Pattern := noneOf "\n"

/-- The blanks of ASCII: tab to carriage return, and the space. -/
def blank : Pattern := within [('\t', '\r'), (' ', ' ')]

end Pattern

end SyntaxExplorer.Lexical
