import SyntaxExplorer.Tree.FlatTree
/-!
The state of the view of one document, and the refresh that shows it.
-/

namespace SyntaxExplorer

/-- The state of a view, as it is kept while the view is suspended. -/
structure ViewState where
  document : String
  nodes : List FlatNode := []
  queryEnabled : Bool := false
  queryText : String := ""
  anonymousShown : Bool := false
  mappingEnabled : Bool := false
  logEnabled : Bool := false
  deriving BEq, DecidableEq, Repr, Inhabited

/-- The whole state of a view, as it is sent to it. -/
structure Refresh where
  document : String
  nodes : List FlatNode
  anonymousShown : Bool
  queryEnabled : Bool
  queryText : String
  mappingEnabled : Bool
  logEnabled : Bool
  deriving BEq, DecidableEq, Repr, Inhabited

namespace ViewState

/-- The query that is to be evaluated, if there is one. -/
def activeQuery? (state : ViewState) : Option String :=
  if state.queryEnabled && !state.queryText.isEmpty then some state.queryText else none

def refresh (state : ViewState) : Refresh :=
  { document := state.document
    nodes := state.nodes
    anonymousShown := state.anonymousShown
    queryEnabled := state.queryEnabled
    queryText := state.queryText
    mappingEnabled := state.mappingEnabled
    logEnabled := state.logEnabled }

end ViewState

end SyntaxExplorer
