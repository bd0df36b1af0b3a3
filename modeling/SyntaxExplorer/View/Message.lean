import SyntaxExplorer.Text.Change
import SyntaxExplorer.View.State
/-!
Messages between a session, its view and the editor.
-/

namespace SyntaxExplorer

/-- A node that a query captured, under the name and the color of the capture. -/
structure Capture where
  pattern : Nat
  name : String
  node : FlatNode
  color : String
  deriving BEq, DecidableEq, Repr, Inhabited

/-- What is wrong with a query, and where in its text. -/
structure QueryFault where
  message : String
  index : Nat
  length : Nat
  deriving BEq, DecidableEq, Repr, Inhabited

/-- A span of the text that is picked in the view. -/
structure TextSelection where
  start : Option Nat := none
  stop : Option Nat := none
  isClick : Bool := false
  deriving BEq, DecidableEq, Repr, Inhabited

/-- The span of a selection; an empty one counts as none. -/
def TextSelection.span? (selection : TextSelection) : Option (Nat × Nat) :=
  match selection.start, selection.stop with
  | some start, some stop => if start < stop then some (start, stop) else none
  | _, _ => none

/-- How a selection came about. -/
inductive SelectionKind
  | keyboard
  | mouse
  | command
  deriving BEq, DecidableEq, Repr, Inhabited

/-- What the view asks for. -/
inductive ViewRequest
  | showAnonymousNodes (value : Bool)
  | enableNodeMapping (value : Bool)
  | selectEditorText (selection : TextSelection)
  | enableQuery (value : Bool)
  | queryNode (text : String)
  | logOutput (value : Bool)
  deriving BEq, DecidableEq, Repr, Inhabited

/-- What happens in the editor.  Each change of a text counts from the text that the change before it
left. -/
inductive EditorEvent
  | textChanged (changes : List TextChange)
  | selectionChanged (anchor active : Point) (kind : SelectionKind)
  | viewStateChanged (visible active : Bool)
  | visibleRangeChanged (firstLine : Nat)
  deriving BEq, DecidableEq, Repr, Inhabited

/-- What a session tells its view and the editor. -/
inductive ViewEvent
  | refresh (refresh : Refresh)
  | queryDone (captures : List Capture)
  | queryError (fault : QueryFault)
  | gotoNode (id : NodeId)
  | scroll (line : Nat)
  | selectRange (start stop : Nat)
  | clearSelection
  | clearDecorations
  deriving BEq, DecidableEq, Repr, Inhabited

end SyntaxExplorer
