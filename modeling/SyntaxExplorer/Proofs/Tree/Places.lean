import Mathlib.Data.List.Forall2
import Mathlib.Data.List.Sort
import SyntaxExplorer.Tree.Walk

/-! The nodes below a start by their paths.  In the order of lists a path comes before its
extensions, and a child before its later siblings: the recursive walk meets the nodes in the order
of their paths, each at its own.
-/

namespace SyntaxExplorer

-----------------------------------------------------------------------------------------
-- The recursive walk
-----------------------------------------------------------------------------------------

namespace Node

mutual

/-- The nodes of a subtree, parents before children. -/
def nodes : Node → List Node
  | mk facts children => mk facts children :: nodesAmong children

def nodesAmong : List Node → List Node
  | [] => []
  | first :: rest => first.nodes ++ nodesAmong rest

end

mutual

/-- The visits of a subtree so many edges below the start, under the node of a number. -/
def visitsBelow (depth : Nat) (parent : NodeId) : Node → List Visit
  | mk facts children =>
    ⟨mk facts children, depth, some parent, facts.fieldId, facts.fieldName⟩
      :: visitsAmong (depth + 1) facts.id children

def visitsAmong (depth : Nat) (parent : NodeId) : List Node → List Visit
  | [] => []
  | first :: rest => first.visitsBelow depth parent ++ visitsAmong depth parent rest

end

/-- The visits of a subtree by recursion.  The start has neither parent nor field. -/
def preorder (start : Node) : List Visit :=
  ⟨start, 0, none, none, none⟩ :: visitsAmong 1 start.id start.children

theorem nodes_eq (node : Node) : node.nodes = node :: nodesAmong node.children := by
  cases node
  rw [nodes, children]

mutual

theorem length_nodes (node : Node) : node.nodes.length = node.size := by
  cases node with
  | mk facts children =>
      rw [nodes, List.length_cons, length_nodesAmong children, size]

theorem length_nodesAmong (children : List Node)
    : (nodesAmong children).length = sizes children := by
  cases children with
  | nil => rfl
  | cons first rest =>
      rw [nodesAmong, List.length_append, length_nodes first, length_nodesAmong rest, sizes]

end

mutual

theorem map_node_visitsBelow (depth : Nat) (parent : NodeId) (node : Node)
    : (node.visitsBelow depth parent).map (·.node) = node.nodes := by
  cases node with
  | mk facts children =>
      rw [visitsBelow, List.map_cons, map_node_visitsAmong (depth + 1) facts.id children, nodes]

theorem map_node_visitsAmong (depth : Nat) (parent : NodeId) (children : List Node)
    : (visitsAmong depth parent children).map (·.node) = nodesAmong children := by
  cases children with
  | nil => rfl
  | cons first rest =>
      rw [visitsAmong, List.map_append, map_node_visitsBelow depth parent first,
        map_node_visitsAmong depth parent rest, nodesAmong]

end

/-- The recursive walk meets the nodes of the subtree, each as often as it is in it. -/
theorem map_node_preorder (start : Node) : start.preorder.map (·.node) = start.nodes := by
  rw [preorder, List.map_cons, map_node_visitsAmong, nodes_eq]

mutual

/-- The nodes below a node stand in a row among those of the tree, by induction over the tree. -/
theorem nodes_isInfix {start : Node} (tree : Node) (within : start ∈ tree.nodes)
    : start.nodes <:+: tree.nodes := by
  cases tree with
  | mk facts children =>
      rw [nodes] at within
      rcases List.mem_cons.mp within with same | below
      · cases same
        exact List.infix_rfl
      · rw [nodes]
        exact (nodesAmong_isInfix children below).trans (List.suffix_cons _ _).isInfix

theorem nodesAmong_isInfix {start : Node} (children : List Node)
    (within : start ∈ nodesAmong children)
    : start.nodes <:+: nodesAmong children := by
  cases children with
  | nil => cases within
  | cons first rest =>
      rw [nodesAmong] at within ⊢
      rcases List.mem_append.mp within with here | later
      · exact (nodes_isInfix first here).trans (List.prefix_append _ _).isInfix
      · exact (nodesAmong_isInfix rest later).trans (List.suffix_append _ _).isInfix

end

-----------------------------------------------------------------------------------------
-- Paths
-----------------------------------------------------------------------------------------

mutual

/-- The paths to the nodes of a subtree. -/
def paths : Node → List (List Nat)
  | mk _ children => [] :: pathsAmong 0 children

/-- The paths through some children, of which the first has an index. -/
def pathsAmong (index : Nat) : List Node → List (List Nat)
  | [] => []
  | first :: rest => first.paths.map (index :: ·) ++ pathsAmong (index + 1) rest

end

theorem paths_eq (node : Node) : node.paths = [] :: pathsAmong 0 node.children := by
  cases node
  rw [paths, children]

/-- A path through some children goes through one of them. -/
theorem mem_pathsAmong {path : List Nat} (index : Nat) (children : List Node)
    : path ∈ pathsAmong index children
      ↔ ∃ (offset : Nat) (child : Node) (rest : List Nat), children[offset]? = some child
        ∧ rest ∈ child.paths ∧ path = (index + offset) :: rest := by
  induction children generalizing index with
  | nil => simp [pathsAmong]
  | cons first later ih =>
      rw [pathsAmong, List.mem_append, List.mem_map, ih]
      constructor
      · intro reached
        rcases reached with ⟨rest, below, led⟩ | ⟨offset, child, rest, found, below, led⟩
        · exact ⟨0, first, rest, rfl, below, led.symm⟩
        · refine ⟨offset + 1, child, rest, found, below, ?_⟩
          rw [led, Nat.add_right_comm, Nat.add_assoc]
      · intro reached
        obtain ⟨offset, child, rest, found, below, led⟩ := reached
        cases offset with
        | zero =>
            cases found
            exact .inl ⟨rest, below, led.symm⟩
        | succ offset =>
            refine .inr ⟨offset, child, rest, found, below, ?_⟩
            rw [led, Nat.add_right_comm, Nat.add_assoc]

/-- The paths of a subtree are those that lead to a node, by induction over the path. -/
theorem mem_paths_iff (start : Node) (path : List Nat)
    : path ∈ start.paths ↔ (start.descendant? path).isSome := by
  induction path generalizing start with
  | nil => simp [paths_eq, descendant?]
  | cons index path ih =>
      rw [paths_eq, List.mem_cons, mem_pathsAmong, descendant?]
      constructor
      · intro reached
        rcases reached with home | ⟨offset, child, rest, found, below, led⟩
        · cases home
        · obtain ⟨rfl, rfl⟩ := List.cons.inj led
          rw [Nat.zero_add, found, Option.bind_some]
          exact (ih child).mp below
      · intro reached
        cases found : start.children[index]? with
        | none =>
            rw [found] at reached
            cases reached
        | some child =>
            rw [found, Option.bind_some] at reached
            refine .inr ⟨index, child, path, found, (ih child).mpr reached, ?_⟩
            rw [Nat.zero_add]

/-- The paths of some children go through indexes from the first on. -/
theorem pathsAmong_ge {path : List Nat} {index : Nat} {children : List Node}
    (listed : path ∈ pathsAmong index children)
    : ∃ later rest, index ≤ later ∧ path = later :: rest := by
  obtain ⟨offset, child, rest, found, below, led⟩ := (mem_pathsAmong index children).mp listed
  exact ⟨index + offset, rest, Nat.le_add_right index offset, led⟩

mutual

/-- The paths of a subtree stand in their order. -/
theorem paths_ordered (node : Node) : node.paths.Pairwise (· < ·) := by
  cases node with
  | mk facts children =>
      rw [paths]
      refine List.pairwise_cons.mpr ⟨fun path listed => ?_, pathsAmong_ordered 0 children⟩
      obtain ⟨later, rest, -, rfl⟩ := pathsAmong_ge listed
      exact List.nil_lt_cons later rest

theorem pathsAmong_ordered (index : Nat) (children : List Node)
    : (pathsAmong index children).Pairwise (· < ·) := by
  cases children with
  | nil => exact List.Pairwise.nil
  | cons first rest =>
      rw [pathsAmong, List.pairwise_append]
      refine ⟨?_, pathsAmong_ordered (index + 1) rest, fun path through other listed => ?_⟩
      · refine List.pairwise_map.mpr ((paths_ordered first).imp fun lesser => ?_)
        exact List.cons_lt_cons_iff.mpr (.inr ⟨rfl, lesser⟩)
      · obtain ⟨below, -, rfl⟩ := List.mem_map.mp through
        obtain ⟨later, rest, beyond, rfl⟩ := pathsAmong_ge listed
        exact List.cons_lt_cons_iff.mpr (.inl beyond)

end

end Node

-----------------------------------------------------------------------------------------
-- The places of visits
-----------------------------------------------------------------------------------------

/-- A visit is that of the node that a path leads to.  Its depth is the number of edges on the path,
its parent the node before the last of them, and its field the role that the node has there. -/
structure Visit.IsAt (start : Node) (path : List Nat) (visit : Visit) : Prop where
  node : start.descendant? path = some visit.node
  depth : visit.depth = path.length
  parent : visit.parent
    = if path = [] then none else (start.descendant? path.dropLast).map Node.id
  fieldId : visit.fieldId = if path = [] then none else visit.node.facts.fieldId
  fieldName : visit.fieldName = if path = [] then none else visit.node.facts.fieldName

namespace Node

variable {start : Node}

theorem descendant?_append (start : Node) (path further : List Nat)
    : start.descendant? (path ++ further)
      = (start.descendant? path).bind (·.descendant? further) := by
  induction path generalizing start with
  | nil => rfl
  | cons index path ih =>
      rw [List.cons_append, descendant?, descendant?, Option.bind_assoc]
      exact congrArg _ (funext fun child => ih child)

/-- A node as one of the children of another. -/
theorem isAt_child {holder node : Node} {above : List Nat} {index : Nat}
    (reached : start.descendant? above = some holder) (listed : holder.children[index]? = some node)
    : Visit.IsAt start (above ++ [index])
        ⟨node, above.length + 1, some holder.id, node.facts.fieldId, node.facts.fieldName⟩ := by
  have beyond : above ++ [index] ≠ [] :=
    List.append_ne_nil_of_right_ne_nil above (List.cons_ne_nil _ _)
  constructor
  case node => rw [descendant?_append, reached, Option.bind_some, descendant?, listed]; rfl
  case depth => rw [List.length_append, List.length_singleton]
  case parent => rw [if_neg beyond, List.dropLast_concat, reached, Option.map_some]
  case fieldId => rw [if_neg beyond]
  case fieldName => rw [if_neg beyond]

mutual

/-- The visits of a subtree are at its paths behind that of its root, by induction over the subtree.
-/
theorem visitsBelow_isAt {holder : Node} {above : List Nat} {index : Nat} (node : Node)
    (reached : start.descendant? above = some holder) (listed : holder.children[index]? = some node)
    : List.Forall₂ (Visit.IsAt start) (node.paths.map fun path => above ++ index :: path)
        (node.visitsBelow (above.length + 1) holder.id) := by
  cases node with
  | mk facts children =>
      have here := isAt_child reached listed
      have below := visitsAmong_isAt 0 children here.node
        fun offset => by rw [Nat.zero_add]; rfl
      rw [List.length_append, List.length_singleton] at below
      simp only [List.append_assoc, List.singleton_append] at below
      rw [paths, visitsBelow, List.map_cons]
      exact .cons here below

theorem visitsAmong_isAt {holder : Node} {above : List Nat} (index : Nat) (children : List Node)
    (reached : start.descendant? above = some holder)
    (listed : ∀ offset : Nat, holder.children[index + offset]? = children[offset]?)
    : List.Forall₂ (Visit.IsAt start) ((pathsAmong index children).map (above ++ ·))
        (visitsAmong (above.length + 1) holder.id children) := by
  cases children with
  | nil => exact .nil
  | cons first rest =>
      have later : ∀ offset : Nat, holder.children[index + 1 + offset]? = rest[offset]? :=
        fun offset => by rw [Nat.add_right_comm]; exact listed (offset + 1)
      rw [pathsAmong, visitsAmong, List.map_append, List.map_map]
      exact List.rel_append (visitsBelow_isAt first reached (listed 0))
        (visitsAmong_isAt (index + 1) rest reached later)

end

/-- The recursive walk meets the nodes in the order of their paths. -/
theorem preorder_isAt (start : Node)
    : List.Forall₂ (Visit.IsAt start) start.paths start.preorder := by
  have home : start.descendant? [] = some start := rfl
  have below := visitsAmong_isAt 0 start.children home fun offset => by rw [Nat.zero_add]
  rw [paths_eq, preorder]
  refine .cons ⟨rfl, rfl, rfl, rfl, rfl⟩ ?_
  simpa using below

/-- A path has one visit. -/
theorem isAt_unique : Relator.RightUnique (Visit.IsAt start) := by
  intro path left right here there
  have same : left.node = right.node := Option.some.inj (here.node.symm.trans there.node)
  have sameDepth : left.depth = right.depth := here.depth.trans there.depth.symm
  have sameParent : left.parent = right.parent := here.parent.trans there.parent.symm
  have sameField : left.fieldId = right.fieldId := by rw [here.fieldId, there.fieldId, same]
  have sameName : left.fieldName = right.fieldName := by rw [here.fieldName, there.fieldName, same]
  cases left
  cases right
  simp only [Visit.mk.injEq]
  exact ⟨same, sameDepth, sameParent, sameField, sameName⟩

/-- Visits are a walk through a subtree if they are at the paths to its nodes, all of these, in
their order: parents before children, and children in the order of their indexes. -/
def IsWalk (start : Node) (visits : List Visit) : Prop :=
  ∃ paths : List (List Nat), paths.Pairwise (· < ·)
    ∧ (∀ path : List Nat, path ∈ paths ↔ (start.descendant? path).isSome)
    ∧ List.Forall₂ (Visit.IsAt start) paths visits

/-- The recursive walk is the only one. -/
theorem isWalk_iff (start : Node) (visits : List Visit)
    : start.IsWalk visits ↔ visits = start.preorder := by
  constructor
  · intro walked
    obtain ⟨paths, ordered, all, met⟩ := walked
    have same : paths = start.paths := by
      refine ordered.eq_of_mem_iff start.paths_ordered fun path => ?_
      rw [all, mem_paths_iff]
    rw [same] at met
    exact isAt_unique.forall₂ met start.preorder_isAt
  · intro same
    rw [same]
    exact ⟨start.paths, start.paths_ordered, start.mem_paths_iff, start.preorder_isAt⟩

end Node

end SyntaxExplorer
