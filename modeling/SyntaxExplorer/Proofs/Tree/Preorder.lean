import Mathlib.Data.List.Nodup
import SyntaxExplorer.Tree.FlatTree
import SyntaxExplorer.Proofs.Tree.Places

/-! The walk of a cursor is the recursive one: each node before the subtrees of its children, these
in their order.  The numbers that are kept beside the cursor are those of the nodes above it, and
the walk ends where it came from, since no node below the start has its number.
-/

namespace SyntaxExplorer

-----------------------------------------------------------------------------------------
-- One subtree of the walk
-----------------------------------------------------------------------------------------

namespace Walker

variable {root : NodeId} {walker : Walker}

/-- A walk that has gone down from where it was to a child with some later siblings. -/
def child (walker : Walker) (first : Node) (rest : List Node) : Walker where
  cursor :=
    ⟨first, rest, ⟨walker.cursor.node, walker.cursor.following⟩ :: walker.cursor.above⟩
  parents := walker.cursor.node.id :: walker.parents

/-- The visits after the subtree at hand. -/
def visitsAfter (root : NodeId) (walker : Walker) : List Visit :=
  match walker.climb? root with
  | some next => next.visits root
  | none => []

/-- The visits from some children of the node at hand on. -/
def visitsFrom (root : NodeId) (walker : Walker) : List Node → List Visit
  | [] => walker.visitsAfter root
  | first :: rest => (walker.child first rest).visits root

/-- The walk visits the node at hand and goes on with its children. -/
theorem visits_eq (root : NodeId) (walker : Walker)
    : walker.visits root = walker.visit :: walker.visitsFrom root walker.cursor.node.children := by
  rw [visits]
  congr 1
  cases listed : walker.cursor.node.children with
  | nil =>
      have leaf : walker.next? root = walker.climb? root := by
        simp only [next?, descend?, Cursor.firstChild?, listed, Option.map_none]
      rw [visitsFrom, visitsAfter]
      split
      · rename_i next moved
        rw [← leaf, moved]
      · rename_i ended
        rw [← leaf, ended]
  | cons first rest =>
      have down : walker.next? root = some (walker.child first rest) := by
        simp only [next?, descend?, Cursor.firstChild?, listed, Option.map_some, child]
      rw [visitsFrom]
      split
      · rename_i next moved
        rw [down] at moved
        cases moved
        rfl
      · rename_i ended
        rw [down] at ended
        cases ended

/-- After the subtree of a child the walk goes on with the later siblings. -/
theorem visitsAfter_child {first : Node} (below : first.id ≠ root) (rest : List Node)
    : (walker.child first rest).visitsAfter root = walker.visitsFrom root rest := by
  have elsewhere : (walker.child first rest).cursor.node.id ≠ root := below
  rw [visitsAfter, climb?, if_neg elsewhere]
  cases rest with
  | nil => rfl
  | cons next rest => rfl

/-- The walk does not leave the node with the number of its root. -/
theorem visitsAfter_root (home : walker.cursor.node.id = root) : walker.visitsAfter root = [] := by
  rw [visitsAfter, climb?, if_pos home]

mutual

/-- The walk from a child on visits the subtree of the child and goes on with the later siblings, by
induction over the subtree. -/
theorem visits_child (walker : Walker) (node : Node) (rest : List Node)
    (below : ∀ met ∈ node.nodes, met.id ≠ root)
    : (walker.child node rest).visits root
      = node.visitsBelow (walker.parents.length + 1) walker.cursor.node.id
        ++ walker.visitsFrom root rest := by
  cases node with
  | mk facts children =>
      have here : (Node.mk facts children).id ≠ root := below _ (List.mem_cons_self ..)
      have among : ∀ met ∈ Node.nodesAmong children, met.id ≠ root :=
        fun met listed => below met (List.mem_cons_of_mem _ listed)
      rw [visits_eq, Node.visitsBelow, List.cons_append]
      congr 1
      calc (walker.child (.mk facts children) rest).visitsFrom root children
        _ = Node.visitsAmong (walker.parents.length + 1 + 1) facts.id children
            ++ (walker.child (.mk facts children) rest).visitsAfter root :=
          visitsFrom_eq (walker.child (.mk facts children) rest) children among
        _ = Node.visitsAmong (walker.parents.length + 1 + 1) facts.id children
            ++ walker.visitsFrom root rest := by rw [visitsAfter_child here]

/-- The walk from some children on visits their subtrees and climbs. -/
theorem visitsFrom_eq (walker : Walker) (children : List Node)
    (below : ∀ met ∈ Node.nodesAmong children, met.id ≠ root)
    : walker.visitsFrom root children
      = Node.visitsAmong (walker.parents.length + 1) walker.cursor.node.id children
        ++ walker.visitsAfter root := by
  cases children with
  | nil => rfl
  | cons first rest =>
      have apart := List.forall_mem_append.mp below
      rw [visitsFrom, visits_child walker first rest apart.1, visitsFrom_eq walker rest apart.2,
        Node.visitsAmong, List.append_assoc]

end

end Walker

-----------------------------------------------------------------------------------------
-- The whole walk
-----------------------------------------------------------------------------------------

namespace Node

variable {tree start : Node}

/-- Nodes that have numbers of their own in a tree have them in each of its subtrees. -/
theorem distinct_within (distinct : (tree.nodes.map id).Nodup) (within : start ∈ tree.nodes)
    : (start.nodes.map id).Nodup :=
  distinct.sublist ((nodes_isInfix tree within).sublist.map id)

theorem walk_eq_preorder (distinct : (start.nodes.map id).Nodup) : start.walk = start.preorder := by
  rw [nodes_eq, List.map_cons, List.nodup_cons] at distinct
  have below : ∀ met ∈ nodesAmong start.children, met.id ≠ start.id := by
    intro met listed same
    exact distinct.1 (List.mem_map.mpr ⟨met, listed, same⟩)
  have home : (Walker.start start).visitsAfter start.id = [] := Walker.visitsAfter_root rfl
  calc start.walk
    _ = (Walker.start start).visit :: (Walker.start start).visitsFrom start.id start.children :=
      Walker.visits_eq start.id (.start start)
    _ = (Walker.start start).visit :: (visitsAmong 1 start.id start.children ++ []) := by
      rw [Walker.visitsFrom_eq _ _ below, home]
      rfl
    _ = start.preorder := by rw [List.append_nil, preorder]; rfl

theorem length_preorder (start : Node) : start.preorder.length = start.size := by
  rw [← length_nodes, ← map_node_preorder, List.length_map]

mutual

/-- Numbering gives the nodes their places in the order of the walk. -/
theorem ids_enumerate (first : NodeId) (node : Node)
    : (node.enumerate first).nodes.map id = List.range' first node.size := by
  cases node with
  | mk facts children =>
      rw [enumerate, nodes, List.map_cons, ids_enumerateAll (first + 1) children, size,
        List.range'_succ]
      rfl

theorem ids_enumerateAll (first : NodeId) (children : List Node)
    : (nodesAmong (enumerateAll first children)).map id = List.range' first (sizes children) := by
  cases children with
  | nil => rfl
  | cons node rest =>
      rw [enumerateAll, nodesAmong, List.map_append, ids_enumerate first node,
        ids_enumerateAll (first + node.size) rest, sizes, List.range'_append_1]

end

/-- The nodes of a tree that is shown have numbers of their own. -/
theorem enumerate_distinct (first : NodeId) (node : Node)
    : ((node.enumerate first).nodes.map id).Nodup := by
  rw [ids_enumerate]
  exact List.nodup_range'

end Node

namespace FlatTree

variable {start : Node}

theorem nodes_ofNode_all (source : String) (start : Node)
    : (ofNode source true start).nodes = start.walk.map (FlatNode.ofVisit source) := by
  simp [ofNode]

/-- Without the anonymous nodes, the list keeps the named ones as they are. -/
theorem nodes_ofNode_named (source : String) (start : Node)
    : (ofNode source false start).nodes = (ofNode source true start).nodes.filter (·.isNamed) := by
  rw [nodes_ofNode_all, List.filter_map]
  rfl

end FlatTree

/-- From any node of a tree whose nodes have numbers of their own, the walk is the recursive one.
It is the only list that meets the nodes of the subtree in the order of their paths, each once and
with its depth, its parent and its field there.  The nodes that are shown are those of these visits:
all of them, as many as are counted and as the start has descendants with itself, or the named ones
among them, which stay as they are. -/
theorem Node.walk_isPreorder {tree start : Node} (source : String)
    (distinct : (tree.nodes.map Node.id).Nodup) (within : start ∈ tree.nodes)
    : start.walk = start.preorder
      ∧ (∀ visits : List Visit, start.IsWalk visits ↔ visits = start.walk)
      ∧ start.walk.map (·.node) = start.nodes
      ∧ (FlatTree.ofNode source true start).nodes
        = start.preorder.map (FlatNode.ofVisit source)
      ∧ (FlatTree.ofNode source true start).length = start.count
      ∧ (FlatTree.ofNode source true start).length
        = (FlatNode.ofNode source start).descendantCount
      ∧ (FlatTree.ofNode source false start).nodes
        = (FlatTree.ofNode source true start).nodes.filter (·.isNamed) := by
  have walked : start.walk = start.preorder := walk_eq_preorder (distinct_within distinct within)
  have shown := FlatTree.nodes_ofNode_all source start
  have counted : (FlatTree.ofNode source true start).length = start.count := by
    rw [FlatTree.length, shown, List.length_map, count]
  refine ⟨walked, ?_, ?_, ?_, counted, ?_, FlatTree.nodes_ofNode_named source start⟩
  · rw [walked]
    exact start.isWalk_iff
  · rw [walked, map_node_preorder]
  · rw [shown, walked]
  · rw [counted, count, walked, length_preorder]
    rfl

/-- A node of the tree of `(a) b`, without its number. -/
def Node.listPart (kind : String) (isNamed : Bool) (field : Option Nat) (children : List Node)
    : Node :=
  .mk
    {
      kindId := kind.length, kind, grammarId := kind.length, grammarKind := kind, isNamed,
      isMissing := false, isExtra := false, hasChanges := false, hasError := false,
      isError := false, start := .zero, stop := .zero, fieldId := field,
      fieldName := field.map fun _ => "item"
    }
    children

/-- The tree of `(a) b`: the group comes first, and fills a field itself. -/
def Node.groupAndName : Node :=
  (listPart "list" true none
    [
      listPart "group" true (some 1)
        [listPart "(" false none [], listPart "name" true (some 1) [], listPart ")" false none []],
      listPart "name" true (some 1) []
    ]).enumerate 0

/-- The walk from the group stops before the name that follows it, and gives the group no field. -/
theorem Node.walk_isPreorder_group
    : (groupAndName.nodes.map Node.id).Nodup
      ∧ ∃ start ∈ groupAndName.nodes, start.facts.fieldId = some 1
        ∧ (FlatTree.ofNode "(a) b" true start).nodes.map
          (fun node => (node.id, node.level, node.parent, node.fieldId))
          = [(1, 0, none, -1), (2, 1, some 1, -1), (3, 1, some 1, 1), (4, 1, some 1, -1)]
        ∧ (FlatTree.ofNode "(a) b" false start).nodes.map
          (fun node => (node.id, node.level, node.parent, node.fieldId))
          = [(1, 0, none, -1), (3, 1, some 1, 1)] := by
  have distinct : (groupAndName.nodes.map Node.id).Nodup := enumerate_distinct 0 _
  have within : groupAndName.nodes[1] ∈ groupAndName.nodes := List.getElem_mem _
  obtain ⟨-, -, -, all, -, -, named⟩ := walk_isPreorder "(a) b" distinct within
  refine ⟨distinct, groupAndName.nodes[1], within, rfl, ?_, ?_⟩
  · rw [all]
    rfl
  · rw [named, all]
    rfl

end SyntaxExplorer
