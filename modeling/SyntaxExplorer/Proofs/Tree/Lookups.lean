import SyntaxExplorer.Proofs.Tree.Preorder

/-! Lookups of nodes by their numbers.  A list of nodes has an answer for the numbers of its nodes only.
Where numbers do not repeat, as in the listing of a tree whose nodes have numbers of their own, the
answer is the node itself.
-/

namespace SyntaxExplorer

-----------------------------------------------------------------------------------------
-- Lists of nodes
-----------------------------------------------------------------------------------------

namespace FlatTree

variable {tree : FlatTree} {id : NodeId} {node : FlatNode}

/-- A place that is found has a node with the number, by induction over the list. -/
theorem getElem?_of_positionFrom {place found : Nat} {nodes : List FlatNode}
    (located : positionFrom id place nodes = some found)
    : ∃ offset node, found = place + offset ∧ nodes[offset]? = some node ∧ node.id = id := by
  induction nodes generalizing place with
  | nil => cases located
  | cons first rest ih =>
      rw [positionFrom] at located
      cases later : positionFrom id (place + 1) rest with
      | some other =>
          rw [later] at located
          cases located
          obtain ⟨offset, node, rfl, listed, same⟩ := ih later
          exact ⟨offset + 1, node, by omega, listed, same⟩
      | none =>
          rw [later, Option.orElse_eq_orElse, Option.orElse_eq_or, Option.none_or] at located
          split at located
          · rename_i same
            cases located
            exact ⟨0, first, rfl, rfl, same⟩
          · cases located

/-- No place is found exactly for the numbers of no nodes, by induction over the list. -/
theorem positionFrom_eq_none_iff {place : Nat} {nodes : List FlatNode}
    : positionFrom id place nodes = none ↔ ∀ node ∈ nodes, node.id ≠ id := by
  induction nodes generalizing place with
  | nil => simp [positionFrom]
  | cons first rest ih =>
      rw [positionFrom, Option.orElse_eq_orElse, Option.orElse_eq_or, Option.or_eq_none_iff, ih,
        List.forall_mem_cons, and_comm]
      simp

/-- A node that is found is in the list and has the number. -/
theorem mem_of_find? (found : tree.find? id = some node) : node ∈ tree.nodes ∧ node.id = id := by
  obtain ⟨place, located, listed⟩ := Option.bind_eq_some_iff.mp found
  obtain ⟨offset, other, rfl, there, same⟩ := getElem?_of_positionFrom located
  rw [Nat.zero_add, there] at listed
  cases listed
  exact ⟨List.mem_of_getElem? there, same⟩

/-- A list has a place for each number of its nodes. -/
theorem isSome_position? (listed : node ∈ tree.nodes) : (tree.position? node.id).isSome := by
  rw [Option.isSome_iff_ne_none, position?, Ne, positionFrom_eq_none_iff]
  exact fun absent => absent node listed rfl

/-- Nothing is found exactly for the numbers of no nodes. -/
theorem find?_eq_none_iff : tree.find? id = none ↔ ∀ node ∈ tree.nodes, node.id ≠ id := by
  constructor
  · intro missing
    cases located : tree.position? id with
    | none => exact positionFrom_eq_none_iff.mp located
    | some place =>
        obtain ⟨offset, other, rfl, there, -⟩ := getElem?_of_positionFrom located
        rw [Nat.zero_add] at located
        rw [find?, located, Option.bind_some, there] at missing
        cases missing
  · intro absent
    rw [find?, position?, positionFrom_eq_none_iff.mpr absent, Option.bind_none]

/-- Where numbers do not repeat, each node is found by its own. -/
theorem find?_of_mem (distinct : (tree.nodes.map (·.id)).Nodup) (listed : node ∈ tree.nodes)
    : tree.find? node.id = some node := by
  cases found : tree.find? node.id with
  | none => exact (find?_eq_none_iff.mp found node listed rfl).elim
  | some other =>
      obtain ⟨there, same⟩ := mem_of_find? found
      rw [List.inj_on_of_nodup_map distinct there listed same]

end FlatTree

-----------------------------------------------------------------------------------------
-- Listings of trees
-----------------------------------------------------------------------------------------

/-- Whether a visit gets into a listing with or without the anonymous nodes. -/
def Visit.isShown (anonymous : Bool) (visit : Visit) : Bool :=
  anonymous || visit.node.facts.isNamed

/-- The numbers that the walk meets are those of the nodes. -/
theorem Node.ids_preorder (start : Node)
    : (start.preorder.map fun visit => visit.node.id) = start.nodes.map Node.id := by
  rw [← map_node_preorder, List.map_map]
  rfl

namespace FlatTree

variable {start : Node} {source : String} {anonymous : Bool} {visit : Visit}

/-- The listing of a tree has the shown ones of the visits of the recursive walk. -/
theorem nodes_ofNode (source : String) (anonymous : Bool)
    (distinct : (start.nodes.map Node.id).Nodup)
    : (ofNode source anonymous start).nodes
      = (start.preorder.filter (Visit.isShown anonymous)).map (FlatNode.ofVisit source) := by
  rw [← Node.walk_eq_preorder distinct]
  rfl

/-- With the anonymous nodes, the listing has all of these visits. -/
theorem nodes_ofNode_whole (source : String) (distinct : (start.nodes.map Node.id).Nodup)
    : (ofNode source true start).nodes = start.preorder.map (FlatNode.ofVisit source) := by
  rw [nodes_ofNode_all, Node.walk_eq_preorder distinct]

/-- The numbers of a listing do not repeat either. -/
theorem listing_distinct (distinct : (start.nodes.map Node.id).Nodup)
    : ((ofNode source anonymous start).nodes.map (·.id)).Nodup := by
  have ids : (start.preorder.map fun visit => visit.node.id).Nodup :=
    start.ids_preorder.symm ▸ distinct
  rw [nodes_ofNode source anonymous distinct, List.map_map]
  exact ids.sublist (List.filter_sublist.map _)

/-- The entries of a listing are those of the nodes that it shows. -/
theorem mem_nodes_iff {entry : FlatNode} (distinct : (start.nodes.map Node.id).Nodup)
    : entry ∈ (ofNode source anonymous start).nodes
      ↔ ∃ visit ∈ start.preorder,
          visit.isShown anonymous = true ∧ entry = FlatNode.ofVisit source visit := by
  rw [nodes_ofNode source anonymous distinct, List.mem_map]
  constructor
  · rintro ⟨visit, kept, rfl⟩
    obtain ⟨met, shown⟩ := List.mem_filter.mp kept
    exact ⟨visit, met, shown, rfl⟩
  · rintro ⟨visit, met, shown, rfl⟩
    exact ⟨visit, List.mem_filter.mpr ⟨met, shown⟩, rfl⟩

/-- A listing finds the nodes that it shows. -/
theorem find?_of_shown (distinct : (start.nodes.map Node.id).Nodup)
    (met : visit ∈ start.preorder) (shown : visit.isShown anonymous = true)
    : (ofNode source anonymous start).find? visit.node.id
      = some (FlatNode.ofVisit source visit) :=
  find?_of_mem (listing_distinct distinct) ((mem_nodes_iff distinct).mpr ⟨visit, met, shown, rfl⟩)

/-- The other nodes of the tree have no entry, as no other node has their numbers. -/
theorem find?_of_hidden (distinct : (start.nodes.map Node.id).Nodup)
    (met : visit ∈ start.preorder) (hidden : visit.isShown anonymous = false)
    : (ofNode source anonymous start).find? visit.node.id = none := by
  rw [find?_eq_none_iff]
  intro entry listed same
  obtain ⟨other, there, shown, rfl⟩ := (mem_nodes_iff distinct).mp listed
  have one : other = visit :=
    List.inj_on_of_nodup_map (start.ids_preorder.symm ▸ distinct) there met same
  rw [one, hidden] at shown
  cases shown

/-- A node of the tree has an entry exactly if it is named or the anonymous nodes are listed too. -/
theorem exists_listed_iff {node : Node} (distinct : (start.nodes.map Node.id).Nodup)
    (within : node ∈ start.nodes)
    : (∃ entry ∈ (ofNode source anonymous start).nodes, entry.id = node.id)
      ↔ anonymous = true ∨ node.facts.isNamed = true := by
  rw [← Node.map_node_preorder] at within
  obtain ⟨visit, met, rfl⟩ := List.mem_map.mp within
  rw [← Bool.or_eq_true]
  constructor
  · rintro ⟨entry, listed, same⟩
    by_contra hidden
    have absent : (ofNode source anonymous start).find? visit.node.id = none :=
      find?_of_hidden distinct met (Bool.eq_false_iff.mpr hidden)
    exact find?_eq_none_iff.mp absent entry listed same
  · intro shown
    exact ⟨_, (mem_nodes_iff distinct).mpr ⟨visit, met, shown, rfl⟩, rfl⟩

end FlatTree

end SyntaxExplorer
