import SyntaxExplorer.Logging.Trace
import SyntaxExplorer.Query.QueryError
import SyntaxExplorer.Registry.Naming
import SyntaxExplorer.Tree.FlatTree
/-!
What the explorer needs of a language: to parse texts, to carry trees along edits, to show trees as
nodes, and to search them.  All that is built on engines works for every engine.
-/

namespace SyntaxExplorer

variable {Tree Query : Type}

/-- The tree of a text, with the kinds of lines that tracing the parse gives. -/
structure Reading (Tree : Type) where
  tree : Tree
  traced : List TraceKind := []

/-- A node that a match captured, under one of so many names. -/
structure CapturedNode (names : Nat) where
  name : Fin names
  node : Node
  parent : Option NodeId

/-- A match of one of the patterns of a query. -/
structure PatternMatch (names : Nat) where
  pattern : Nat
  captured : List (CapturedNode names)

/-- The matches of a query in their order, and whether more of them were in progress at once than
allowed. -/
structure Matching (names : Nat) where
  found : List (PatternMatch names)
  exceeded : Bool

structure Engine (Tree Query : Type) where
  /-- Parses a text, given the edited tree of an earlier text if there is one.  A parser gives up only
  if it has no language, or if it is given a time limit or a way to be stopped.  Those here have their
  language from the start and are never given the others, so there always is a tree. -/
  parse : String → Option Tree → Reading Tree
  /-- A tree after an edit of its text. -/
  edit : Tree → TreeEdit → Tree
  /-- The nodes of a tree, below its root. -/
  shown : Tree → Node
  compile : String → Except QueryError Query
  /-- The names of the captures of a query, by their numbers. -/
  captureNames : Query → Array String
  /-- Matches a query below a root in a text, with so many matches in progress at most. -/
  search : (query : Query) → Nat → Node → String → Matching (captureNames query).size

/-- The root of a tree, its nodes numbered in the order of the walk. -/
def Engine.root (engine : Engine Tree Query) (tree : Tree) : Node := (engine.shown tree).enumerate 0

end SyntaxExplorer
