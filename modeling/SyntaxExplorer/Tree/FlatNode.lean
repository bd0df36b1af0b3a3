import SyntaxExplorer.Text.Bytes
import SyntaxExplorer.Tree.Walk
/-!
Nodes without their tree.  A flat node holds everything that is shown of a node; its parent is a number,
so that lists of nodes can be kept and sent on their own.
-/

namespace SyntaxExplorer

structure FlatNode where
  id : NodeId := 0
  kindId : Nat := 0
  grammarId : Nat := 0
  kind : String := ""
  grammarKind : String := ""
  isNamed : Bool := false
  isMissing : Bool := false
  isExtra : Bool := false
  hasChanges : Bool := false
  hasError : Bool := false
  isError : Bool := false
  text : String := ""
  start : Extent := .zero
  stop : Extent := .zero
  parent : Option NodeId := none
  childCount : Nat := 0
  namedChildCount : Nat := 0
  descendantCount : Nat := 0
  /-- The depth below the start of the walk, nodes that are not shown counted too. -/
  level : Nat := 0
  /-- The field of the parent that the node fills, or `noField`. -/
  fieldId : Int
  fieldName : String := ""
  deriving BEq, DecidableEq, Repr

namespace FlatNode

/-- Stands for the field of a node that fills none. -/
def noField : Int := -1

instance : Inhabited FlatNode := ⟨{ fieldId := noField }⟩

def hasField (node : FlatNode) : Bool := node.fieldId != noField

/-- What is known of a node without its place in the tree. -/
def ofNode (source : String) (node : Node) : FlatNode :=
  let facts := node.facts
  { id := facts.id
    kindId := facts.kindId
    grammarId := facts.grammarId
    kind := facts.kind
    grammarKind := facts.grammarKind
    isNamed := facts.isNamed
    isMissing := facts.isMissing
    isExtra := facts.isExtra
    hasChanges := facts.hasChanges
    hasError := facts.hasError
    isError := facts.isError
    text := (Text.slice? source facts.start.bytes facts.stop.bytes).getD ""
    start := facts.start
    stop := facts.stop
    childCount := node.children.length
    namedChildCount := (node.children.filter (·.facts.isNamed)).length
    descendantCount := node.size
    fieldId := noField }

/-- A node as the walk meets it. -/
def ofVisit (source : String) (visit : Visit) : FlatNode :=
  { ofNode source visit.node with
    parent := visit.parent
    level := visit.depth
    fieldId := match visit.fieldId with
      | some field => field
      | none => noField
    fieldName := visit.fieldName.getD "" }

/-- A node that is reached without a walk: it has no level and no field, but a parent. -/
def detached (source : String) (parent : Option NodeId) (node : Node) : FlatNode :=
  { ofNode source node with parent }

end FlatNode

end SyntaxExplorer
