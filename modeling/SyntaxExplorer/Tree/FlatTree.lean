import SyntaxExplorer.Tree.FlatNode
/-!
Trees as lists of flat nodes, in the order of the walk.  Parents and ancestors are found by numbers; a
number that several nodes have stands for the last of them.
-/

namespace SyntaxExplorer

structure FlatTree where
  nodes : List FlatNode
  deriving BEq, Repr, Inhabited

namespace FlatTree

/-- The nodes below a root, anonymous ones only where they are asked for. -/
def ofNode (source : String) (anonymous : Bool) (root : Node) : FlatTree :=
  ⟨(root.walk.filter fun visit => anonymous || visit.node.facts.isNamed).map
    (FlatNode.ofVisit source)⟩

def length (tree : FlatTree) : Nat := tree.nodes.length

def isEmpty (tree : FlatTree) : Bool := tree.nodes.isEmpty

def root? (tree : FlatTree) : Option FlatNode := tree.nodes.head?

/-- The place of the last node with a number, in a list that starts at a place. -/
def positionFrom (id : NodeId) (place : Nat) : List FlatNode → Option Nat
  | [] => none
  | node :: rest =>
    positionFrom id (place + 1) rest <|> if node.id = id then some place else none

/-- The place of a node in the list. -/
def position? (tree : FlatTree) (id : NodeId) : Option Nat := positionFrom id 0 tree.nodes

def find? (tree : FlatTree) (id : NodeId) : Option FlatNode :=
  (tree.position? id).bind (tree.nodes[·]?)

/-- The parent of a node, if it is in the list. -/
def parent? (tree : FlatTree) (node : FlatNode) : Option FlatNode := node.parent.bind tree.find?

/-- The chain of parents of a node, the nearest first.  `fuel` bounds its length. -/
def chain (tree : FlatTree) : Nat → FlatNode → List FlatNode
  | 0, _ => []
  | fuel + 1, node => match tree.parent? node with
    | some parent => parent :: tree.chain fuel parent
    | none => []

/-- The ancestors of a node that are in the list, the nearest first. -/
def ancestors (tree : FlatTree) (id : NodeId) : List FlatNode :=
  match tree.find? id with
  | some node => tree.chain tree.length node
  | none => []

/-- The numbers from the outermost ancestor down to a node. -/
def path (tree : FlatTree) (id : NodeId) : List NodeId :=
  (tree.ancestors id).reverse.map (·.id) ++
    if (tree.position? id).isSome then [id] else []

end FlatTree

end SyntaxExplorer
