import SyntaxExplorer.Tree.Walk
/-!
The smallest node that spans a part of the text.
-/

namespace SyntaxExplorer.Node

/-- Whether a node ends before a part of the text that starts and ends at two points. -/
def endsBefore (first last : Point) (node : Node) : Bool :=
  let stop := node.facts.stop.point
  let isEmpty := node.facts.start.point == stop
  stop.isBefore last || (if isEmpty then stop.isBefore first else !first.isBefore stop)

mutual

/-- The smallest node that spans a part of the text.  `node` is taken to span it. -/
def descendIn (first last : Point) : Node → Node
  | .mk facts children => descendAmong first last (.mk facts children) children

/-- Goes on with the first of some nodes that reaches far enough, if it spans the part. -/
def descendAmong (first last : Point) (outer : Node) : List Node → Node
  | [] => outer
  | child :: rest =>
    if child.endsBefore first last then descendAmong first last outer rest
    else if first.isBefore child.facts.start.point then outer
    else descendIn first last child

end

/-- The smallest node that spans the part of the text between two points, in order. -/
def smallestSpanning? (root : Node) (first last : Point) : Option Node :=
  if last.isBefore first then none else some (descendIn first last root)

end SyntaxExplorer.Node
