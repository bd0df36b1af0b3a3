import Mathlib.Data.List.Chain
import Mathlib.Data.List.Perm.Subperm
import Mathlib.Logic.Function.Iterate
import Mathlib.Logic.Relation
import Std.Data.HashMap
import SyntaxExplorer.Proofs.Tree.Ancestry

/-! Chains of parents in lists of nodes, whatever the order of the list and wherever the nodes come
from.  Ancestors are met one by one, by a loop that no measure on the nodes bounds.  It ends for every
node exactly if no node is above itself, and has then met the nodes above up to the first one without
a parent in the list: none of them twice, so no more than the list has.
-/

namespace SyntaxExplorer

namespace FlatTree

variable {tree : FlatTree} {id : NodeId} {node : FlatNode} {above : List FlatNode}

-----------------------------------------------------------------------------------------
-- Places
-----------------------------------------------------------------------------------------

/-- The table of places by numbers, filled from the front: of nodes with one number the last remains.
-/
def index (tree : FlatTree) : Std.HashMap NodeId Nat :=
  .ofList (tree.nodes.zipIdx.map fun entry => (entry.1.id, entry.2))

/-- Entries for a list of nodes take precedence over those before, by induction over the list. -/
theorem getElem?_insertMany (table : Std.HashMap NodeId Nat) (place : Nat) (nodes : List FlatNode)
    : (table.insertMany ((nodes.zipIdx place).map fun entry => (entry.1.id, entry.2)))[id]?
      = (positionFrom id place nodes).or table[id]? := by
  induction nodes generalizing table place with
  | nil => rw [List.zipIdx_nil, List.map_nil, Std.HashMap.insertMany_nil, positionFrom, Option.none_or]
  | cons first rest ih =>
      rw [List.zipIdx_cons, List.map_cons, Std.HashMap.insertMany_cons, ih,
        Std.HashMap.getElem?_insert, positionFrom, Option.orElse_eq_orElse, Option.orElse_eq_or,
        Option.or_assoc]
      by_cases same : first.id = id <;> simp [same]

/-- The table has the places that are found in the list. -/
theorem getElem?_index (tree : FlatTree) (id : NodeId) : tree.index[id]? = tree.position? id := by
  rw [index, Std.HashMap.ofList_eq_insertMany_empty, getElem?_insertMany, Std.HashMap.getElem?_empty,
    Option.or_none]
  rfl

/-- Where numbers do not repeat, a place is found exactly for the number of the node there. -/
theorem position?_eq_some_iff (distinct : (tree.nodes.map (·.id)).Nodup) {place : Nat}
    : tree.position? id = some place ↔ ∃ node, tree.nodes[place]? = some node ∧ node.id = id := by
  constructor
  · intro located
    obtain ⟨offset, node, rfl, listed, same⟩ := getElem?_of_positionFrom located
    exact ⟨node, by rw [Nat.zero_add, listed], same⟩
  · rintro ⟨node, listed, rfl⟩
    obtain ⟨found, located⟩ :=
      Option.isSome_iff_exists.mp (isSome_position? (List.mem_of_getElem? listed))
    obtain ⟨offset, other, rfl, there, same⟩ := getElem?_of_positionFrom located
    have one : other = node :=
      List.inj_on_of_nodup_map distinct (List.mem_of_getElem? there) (List.mem_of_getElem? listed)
        same
    subst one
    have inside : place < tree.nodes.length := (List.getElem?_eq_some_iff.mp listed).1
    have here : place = offset :=
      (List.getElem?_inj inside (List.Nodup.of_map _ distinct)).mp (listed.trans there.symm)
    rw [located, Nat.zero_add, here]

/-- Where numbers do not repeat, the node of a number is the one that has it. -/
theorem find?_eq_some_iff (distinct : (tree.nodes.map (·.id)).Nodup)
    : tree.find? id = some node ↔ node ∈ tree.nodes ∧ node.id = id := by
  constructor
  · exact mem_of_find?
  · rintro ⟨listed, rfl⟩
    exact find?_of_mem distinct listed

-----------------------------------------------------------------------------------------
-- Parents
-----------------------------------------------------------------------------------------

/-- A node of the list has another one as its parent. -/
structure HasParent (tree : FlatTree) (child parent : FlatNode) : Prop where
  child_listed : child ∈ tree.nodes
  parent_listed : parent ∈ tree.nodes
  linked : child.parent = some parent.id

/-- No parent is found exactly if none is in the list. -/
theorem parent?_eq_none_iff
    : tree.parent? node = none ↔ ∀ parent ∈ tree.nodes, node.parent ≠ some parent.id := by
  rw [parent?]
  cases node.parent with
  | none => simp
  | some upper =>
      rw [Option.bind_some, find?_eq_none_iff]
      exact forall₂_congr fun parent _ => by rw [Ne, Ne, Option.some_inj, eq_comm]

/-- Where numbers do not repeat, the parent that is found is the one in the list. -/
theorem parent?_eq_some_iff (distinct : (tree.nodes.map (·.id)).Nodup) {parent : FlatNode}
    (listed : node ∈ tree.nodes)
    : tree.parent? node = some parent ↔ tree.HasParent node parent := by
  rw [parent?, Option.bind_eq_some_iff]
  constructor
  · rintro ⟨upper, linked, found⟩
    obtain ⟨there, rfl⟩ := mem_of_find? found
    exact ⟨listed, there, linked⟩
  · intro link
    exact ⟨parent.id, link.linked, find?_of_mem distinct link.parent_listed⟩

-----------------------------------------------------------------------------------------
-- Forests
-----------------------------------------------------------------------------------------

/-- The numbers of the list do not repeat, and no node is above itself.  Parents may be missing. -/
structure IsForest (tree : FlatTree) : Prop where
  distinct : (tree.nodes.map (·.id)).Nodup
  acyclic : ∀ node, ¬ Relation.TransGen tree.HasParent node node

/-- A list in which each parent has a lower rank than its child has no cycle. -/
theorem acyclic_of_rank (rank : FlatNode → Nat)
    (falls : ∀ child parent, tree.HasParent child parent → rank parent < rank child)
    : ∀ node, ¬ Relation.TransGen tree.HasParent node node := by
  intro node cycle
  have down : ∀ upper, Relation.TransGen tree.HasParent node upper → rank upper < rank node := by
    intro upper path
    induction path with
    | single link => exact falls _ _ link
    | tail _ link ih => exact (falls _ _ link).trans ih
  exact Nat.lt_irrefl _ (down node cycle)

/-- The listing of a tree whose nodes have numbers of their own is a forest, with or without the
anonymous nodes: the parent of an entry is one level higher.
-/
theorem isForest_ofNode {root : Node} (source : String) (anonymous : Bool)
    (distinct : (root.nodes.map Node.id).Nodup)
    : (ofNode source anonymous root).IsForest := by
  refine ⟨listing_distinct distinct, acyclic_of_rank (·.level) fun child parent link => ?_⟩
  obtain ⟨lower, below, -, rfl⟩ := (mem_nodes_iff distinct).mp link.child_listed
  obtain ⟨upper, met, -, rfl⟩ := (mem_nodes_iff distinct).mp link.parent_listed
  obtain ⟨path, here⟩ := Node.mem_preorder_iff.mp below
  have linked : lower.parent = some upper.node.id := link.linked
  rw [here.parent] at linked
  split at linked
  · cases linked
  · -- The parent stands where the path without its last step leads, as no other node has its number.
    rename_i onward
    obtain ⟨holder, reached, same⟩ := Option.map_eq_some_iff.mp linked
    obtain ⟨visit, found, there⟩ := Node.exists_isAt (Option.isSome_of_eq_some reached)
    have one : visit = upper := by
      refine List.inj_on_of_nodup_map (root.ids_preorder.symm ▸ distinct) found met ?_
      rw [← same, ← Option.some.inj (reached.symm.trans there.node)]
    have shorter : path.dropLast.length < path.length := by
      rw [List.length_dropLast]
      exact Nat.sub_lt (List.length_pos_iff.mpr onward) Nat.one_pos
    calc (FlatNode.ofVisit source upper).level
      _ = path.dropLast.length := one ▸ there.depth
      _ < path.length := shorter
      _ = (FlatNode.ofVisit source lower).level := here.depth.symm

-----------------------------------------------------------------------------------------
-- Lineages
-----------------------------------------------------------------------------------------

/-- Nodes are those above a node, the nearest first, as far as the list has them. -/
structure IsLineage (tree : FlatTree) (node : FlatNode) (above : List FlatNode) : Prop where
  linked : (node :: above).IsChain tree.HasParent
  ended
    : ∀ last ∈ (node :: above).getLast?,
        ∀ parent ∈ tree.nodes,
          last.parent ≠ some parent.id

/-- The nodes of a chain of parents are in the list. -/
theorem mem_nodes_of_linked (listed : node ∈ tree.nodes)
    (linked : (node :: above).IsChain tree.HasParent)
    : node :: above ⊆ tree.nodes :=
  List.forall_mem_cons.mpr
    ⟨listed,
      linked.cons_induction (· ∈ tree.nodes) above (fun _ _ link _ => link.parent_listed) listed⟩

/-- Without a cycle a chain of parents never comes back: each node has all later ones above it. -/
theorem nodup_of_linked (acyclic : ∀ node, ¬ Relation.TransGen tree.HasParent node node)
    {chain : List FlatNode} (linked : chain.IsChain tree.HasParent)
    : chain.Nodup := by
  have above : chain.Pairwise (Relation.TransGen tree.HasParent) :=
    List.isChain_iff_pairwise.mp (linked.imp fun _ _ => Relation.TransGen.single)
  refine above.imp fun {lower upper} path same => ?_
  subst same
  exact acyclic lower path

/-- A chain of parents has fewer links than the list has nodes, as its nodes are different ones of the
list.
-/
theorem length_lt_of_linked (forest : tree.IsForest) (listed : node ∈ tree.nodes)
    (linked : (node :: above).IsChain tree.HasParent)
    : above.length < tree.length :=
  ((nodup_of_linked forest.acyclic linked).subperm (mem_nodes_of_linked listed linked)).length_le

namespace IsLineage

theorem parent?_eq_head? (distinct : (tree.nodes.map (·.id)).Nodup)
    (lineage : tree.IsLineage node above)
    : tree.parent? node = above.head? := by
  cases above with
  | nil => exact parent?_eq_none_iff.mpr (lineage.ended node rfl)
  | cons parent rest =>
      have link := (List.isChain_cons_cons.mp lineage.linked).1
      exact (parent?_eq_some_iff distinct link.child_listed).mpr link

theorem tail {parent : FlatNode} (lineage : tree.IsLineage node (parent :: above))
    : tree.IsLineage parent above :=
  ⟨lineage.linked.tail, List.getLast?_cons_cons ▸ lineage.ended⟩

/-- In a forest all numbers of a lineage and of its node are different. -/
theorem distinct (forest : tree.IsForest) (listed : node ∈ tree.nodes)
    (lineage : tree.IsLineage node above)
    : ((node :: above).map (·.id)).Nodup := by
  have within := mem_nodes_of_linked listed lineage.linked
  refine (nodup_of_linked forest.acyclic lineage.linked).map_on fun left here right there => ?_
  exact List.inj_on_of_nodup_map forest.distinct (within here) (within there)

end IsLineage

-----------------------------------------------------------------------------------------
-- Searches
-----------------------------------------------------------------------------------------

/-- A search for ancestors under way: those that were met, and the one that is next. -/
structure Ascent where
  met : List FlatNode
  next : Option FlatNode

/-- A search at its start, with the parent of a node of the list. -/
def ascent (tree : FlatTree) (id : NodeId) : Ascent := ⟨[], (tree.find? id).bind tree.parent?⟩

/-- One round of the search.  A search without a next node has ended. -/
def ascend (tree : FlatTree) (search : Ascent) : Ascent :=
  match search.next with
  | some node => ⟨search.met ++ [node], tree.parent? node⟩
  | none => search

/-- The search from a number ends after so many rounds, and not before, with the nodes that it met. -/
structure EndsAfter (tree : FlatTree) (id : NodeId) (rounds : Nat) (met : List FlatNode) : Prop where
  ended : tree.ascend^[rounds] (tree.ascent id) = ⟨met, none⟩
  going : ∀ fewer < rounds, (tree.ascend^[fewer] (tree.ascent id)).next.isSome

theorem ascend_ended (tree : FlatTree) (met : List FlatNode) (rounds : Nat)
    : tree.ascend^[rounds] ⟨met, none⟩ = ⟨met, none⟩ :=
  Function.iterate_fixed rfl rounds

/-- In any list, a chain of parents with a bound has the nodes that so many rounds of the search meet,
by induction over the rounds.
-/
theorem met_ascend (tree : FlatTree) (met : List FlatNode) (node : FlatNode) (rounds : Nat)
    : (tree.ascend^[rounds] ⟨met, tree.parent? node⟩).met = met ++ tree.chain rounds node := by
  induction rounds generalizing met node with
  | zero => exact (List.append_nil met).symm
  | succ rounds ih =>
      rw [chain]
      cases found : tree.parent? node with
      | none => rw [ascend_ended, List.append_nil]
      | some parent =>
          rw [Function.iterate_succ_apply]
          exact (ih (met ++ [parent]) parent).trans (List.append_assoc met [parent] _)

/-- In any list the ancestors are those met in as many rounds as the list has nodes. -/
theorem ancestors_eq_met (tree : FlatTree) (id : NodeId)
    : tree.ancestors id = (tree.ascend^[tree.length] (tree.ascent id)).met := by
  rw [ancestors, ascent]
  cases tree.find? id with
  | none => rw [Option.bind_none, ascend_ended]
  | some node => exact (met_ascend tree [] node tree.length).symm

/-- Each round of a search meets the next node of the lineage, by induction over the lineage. -/
theorem IsLineage.ascend (distinct : (tree.nodes.map (·.id)).Nodup)
    (lineage : tree.IsLineage node above) (met : List FlatNode) (rounds : Nat)
    : tree.ascend^[rounds] ⟨met, tree.parent? node⟩
      = ⟨met ++ above.take rounds, above[rounds]?⟩ := by
  induction above generalizing node met rounds with
  | nil =>
      rw [lineage.parent?_eq_head? distinct, List.head?_nil, ascend_ended, List.take_nil,
        List.append_nil, List.getElem?_nil]
  | cons parent rest ih =>
      rw [lineage.parent?_eq_head? distinct, List.head?_cons]
      cases rounds with
      | zero => rw [List.take_zero, List.append_nil]; rfl
      | succ rounds =>
          rw [Function.iterate_succ_apply]
          refine (ih lineage.tail (met ++ [parent]) rounds).trans ?_
          rw [List.append_assoc]
          rfl

theorem IsLineage.search (distinct : (tree.nodes.map (·.id)).Nodup) (found : tree.find? id = some node)
    (lineage : tree.IsLineage node above) (rounds : Nat)
    : tree.ascend^[rounds] (tree.ascent id) = ⟨above.take rounds, above[rounds]?⟩ := by
  rw [ascent, found]
  exact lineage.ascend distinct [] rounds

/-- A node on a cycle is in the list, and its parent is on a cycle too. -/
theorem exists_parent_of_cycle (distinct : (tree.nodes.map (·.id)).Nodup)
    (cycle : Relation.TransGen tree.HasParent node node)
    : node ∈ tree.nodes
      ∧ ∃ parent,
          tree.parent? node = some parent
          ∧ Relation.TransGen tree.HasParent parent parent := by
  obtain ⟨parent, link, back⟩ := Relation.TransGen.head'_iff.mp cycle
  have found := (parent?_eq_some_iff distinct link.child_listed).mpr link
  exact ⟨link.child_listed, parent, found, .tail' back link⟩

/-- A search that has come to a cycle goes on after any number of rounds, by induction over them. -/
theorem ascend_cycle (distinct : (tree.nodes.map (·.id)).Nodup)
    (cycle : Relation.TransGen tree.HasParent node node) (met : List FlatNode) (rounds : Nat)
    : (tree.ascend^[rounds] ⟨met, tree.parent? node⟩).next.isSome := by
  induction rounds generalizing met node with
  | zero =>
      obtain ⟨-, parent, found, -⟩ := exists_parent_of_cycle distinct cycle
      exact Option.isSome_of_eq_some found
  | succ rounds ih =>
      obtain ⟨-, parent, found, further⟩ := exists_parent_of_cycle distinct cycle
      rw [Function.iterate_succ_apply, found]
      exact ih further (met ++ [parent])

-----------------------------------------------------------------------------------------
-- Ancestors
-----------------------------------------------------------------------------------------

/-- The chain that is followed is one of parents, by induction over its bound. -/
theorem chain_linked (distinct : (tree.nodes.map (·.id)).Nodup) (listed : node ∈ tree.nodes)
    (fuel : Nat)
    : (node :: tree.chain fuel node).IsChain tree.HasParent := by
  induction fuel generalizing node with
  | zero => exact .singleton node
  | succ fuel ih =>
      rw [chain]
      cases found : tree.parent? node with
      | none => exact .singleton node
      | some parent =>
          have link := (parent?_eq_some_iff distinct listed).mp found
          exact .cons_cons link (ih link.parent_listed)

/-- A chain below its bound has ended: its last node has no parent in the list. -/
theorem chain_ended {fuel : Nat} (spared : (tree.chain fuel node).length < fuel)
    : ∀ last ∈ (node :: tree.chain fuel node).getLast?, tree.parent? last = none := by
  induction fuel generalizing node with
  | zero => cases spared
  | succ fuel ih =>
      rw [chain] at spared ⊢
      cases found : tree.parent? node with
      | none =>
          intro last final
          cases final
          exact found
      | some parent =>
          rw [found] at spared
          rw [List.getLast?_cons_cons]
          exact ih (Nat.lt_of_succ_lt_succ spared)

/-- In a forest the ancestors of a node are a lineage of it. -/
theorem isLineage_ancestors (forest : tree.IsForest) (found : tree.find? id = some node)
    : tree.IsLineage node (tree.ancestors id) := by
  have listed := (mem_of_find? found).1
  have linked := chain_linked forest.distinct listed tree.length
  rw [ancestors, found]
  -- A chain that used up the bound would have one node more than the list.
  refine ⟨linked, fun last final => ?_⟩
  exact parent?_eq_none_iff.mp (chain_ended (length_lt_of_linked forest listed linked) last final)

/-- In a forest a node has one lineage: whatever is one is met by the search. -/
theorem ancestors_eq_iff (forest : tree.IsForest) (found : tree.find? id = some node)
    : tree.ancestors id = above ↔ tree.IsLineage node above := by
  constructor
  · rintro rfl
    exact isLineage_ancestors forest found
  · intro lineage
    have short := length_lt_of_linked forest (mem_of_find? found).1 lineage.linked
    rw [ancestors_eq_met, lineage.search forest.distinct found]
    exact List.take_of_length_le (Nat.le_of_lt short)

theorem length_ancestors_le (forest : tree.IsForest) (id : NodeId)
    : (tree.ancestors id).length ≤ tree.length := by
  cases found : tree.find? id with
  | none =>
      rw [ancestors, found]
      exact Nat.zero_le _
  | some node =>
      have lineage := isLineage_ancestors forest found
      exact Nat.le_of_lt (length_lt_of_linked forest (mem_of_find? found).1 lineage.linked)

/-- In a forest so many rounds of a search meet so many ancestors, whatever the number. -/
theorem ascend_ancestors (forest : tree.IsForest) (id : NodeId) (rounds : Nat)
    : tree.ascend^[rounds] (tree.ascent id)
      = ⟨(tree.ancestors id).take rounds, (tree.ancestors id)[rounds]?⟩ := by
  cases found : tree.find? id with
  | none =>
      rw [ancestors, ascent, found, Option.bind_none, ascend_ended, List.take_nil, List.getElem?_nil]
  | some node => exact (isLineage_ancestors forest found).search forest.distinct found rounds

/-- In a forest each search ends after one round for each ancestor. -/
theorem endsAfter_ancestors (forest : tree.IsForest) (id : NodeId)
    : tree.EndsAfter id (tree.ancestors id).length (tree.ancestors id) := by
  constructor
  case ended => rw [ascend_ancestors forest, List.take_length, List.getElem?_length]
  case going =>
    intro fewer below
    rw [ascend_ancestors forest, List.getElem?_eq_getElem below]
    rfl

/-- Where numbers do not repeat, all searches end exactly if no node is above itself. -/
theorem ascents_end_iff (distinct : (tree.nodes.map (·.id)).Nodup)
    : (∀ id, ∃ rounds met, tree.EndsAfter id rounds met)
      ↔ ∀ node, ¬ Relation.TransGen tree.HasParent node node := by
  constructor
  · intro ends node cycle
    have listed := (exists_parent_of_cycle distinct cycle).1
    obtain ⟨rounds, met, ended, -⟩ := ends node.id
    have going := ascend_cycle distinct cycle [] rounds
    rw [ascent, find?_of_mem distinct listed, Option.bind_some] at ended
    rw [ended] at going
    cases going
  · exact fun acyclic id => ⟨_, _, endsAfter_ancestors ⟨distinct, acyclic⟩ id⟩

-----------------------------------------------------------------------------------------
-- Paths
-----------------------------------------------------------------------------------------

/-- A number is that of the parent of the node with the other. -/
def LeadsTo (tree : FlatTree) (upper lower : NodeId) : Prop :=
  ∃ child parent, tree.HasParent child parent ∧ parent.id = upper ∧ child.id = lower

/-- The path of a node has the numbers of its ancestors and its own, the outermost first. -/
theorem path_eq (listed : node ∈ tree.nodes)
    : tree.path node.id = ((node :: tree.ancestors node.id).map (·.id)).reverse := by
  rw [path, if_pos (isSome_position? listed), List.map_cons, List.reverse_cons, List.map_reverse]

/-- A chain of parents gives a way down through their numbers. -/
theorem leadsTo_of_linked {chain : List FlatNode} (linked : chain.IsChain tree.HasParent)
    : (chain.map (·.id)).reverse.IsChain tree.LeadsTo := by
  rw [List.isChain_reverse, List.isChain_map]
  exact linked.imp fun child parent link => ⟨child, parent, link, rfl, rfl⟩

/-- A number that no node has leads nowhere. -/
theorem ancestors_of_absent (absent : ∀ node ∈ tree.nodes, node.id ≠ id)
    : tree.ancestors id = [] ∧ tree.path id = [] := by
  have empty : tree.ancestors id = [] := by rw [ancestors, find?_eq_none_iff.mpr absent]
  refine ⟨empty, ?_⟩
  rw [path, empty, position?, positionFrom_eq_none_iff.mpr absent]
  rfl

/-- In a list of nodes in any order, whose numbers do not repeat and of which none is above itself, the
search for the ancestors of a number ends after one round for each of them, and they are at most as
many as the nodes.  For the number of a node they are its one lineage: parent after parent, up to the
first without a parent in the list, none of them twice and the node itself not among them; and the
path leads down through the same nodes, from parent to child.  For other numbers there are neither.
Places and nodes are found exactly for the numbers of the nodes, as the table of places has them.
-/
theorem ancestors_areLineage {tree : FlatTree} (forest : tree.IsForest) (id : NodeId)
    : let above := tree.ancestors id
      tree.EndsAfter id above.length above
      ∧ above.length ≤ tree.length
      ∧ (∀ node ∈ tree.nodes,
          node.id = id
          → (∀ chain, above = chain ↔ tree.IsLineage node chain)
            ∧ ((node :: above).map (·.id)).Nodup
            ∧ tree.path id = (above.map (·.id)).reverse ++ [id]
            ∧ (tree.path id).IsChain tree.LeadsTo)
      ∧ ((∀ node ∈ tree.nodes, node.id ≠ id) → above = [] ∧ tree.path id = [])
      ∧ (∀ place,
          tree.position? id = some place
          ↔ ∃ node, tree.nodes[place]? = some node ∧ node.id = id)
      ∧ (∀ node,
          tree.find? id = some node
          ↔ ∃ place : Nat, tree.nodes[place]? = some node ∧ node.id = id)
      ∧ tree.index[id]? = tree.position? id := by
  intro above
  refine ⟨endsAfter_ancestors forest id, length_ancestors_le forest id, ?_, ancestors_of_absent,
    fun place => position?_eq_some_iff forest.distinct, ?_, getElem?_index tree id⟩
  · rintro node listed rfl
    have found : tree.find? node.id = some node := find?_of_mem forest.distinct listed
    have lineage : tree.IsLineage node above := isLineage_ancestors forest found
    have way : tree.path node.id = ((node :: above).map (·.id)).reverse := path_eq listed
    refine ⟨fun chain => ancestors_eq_iff forest found, lineage.distinct forest listed, ?_, ?_⟩
    · rw [way, List.map_cons, List.reverse_cons]
    · rw [way]
      exact leadsTo_of_linked lineage.linked
  · intro node
    rw [find?_eq_some_iff forest.distinct, List.mem_iff_getElem?, exists_and_right]

end FlatTree

/-- Entries out of order: 7 and 1 below 4, which is below 2.  The parent of 2 is not among them. -/
def FlatTree.scattered : FlatTree :=
  let entry (id : NodeId) (parent : Option NodeId) (level : Nat) : FlatNode :=
    { id, parent, level, fieldId := FlatNode.noField }
  ⟨[entry 7 (some 4) 2, entry 2 (some 9) 0, entry 5 none 0, entry 4 (some 2) 1, entry 1 (some 4) 2]⟩

theorem FlatTree.scattered_isForest : scattered.IsForest := by
  have falls : ∀ child ∈ scattered.nodes, ∀ parent ∈ scattered.nodes,
      child.parent = some parent.id → parent.level < child.level := by decide
  refine ⟨by decide, acyclic_of_rank (·.level) fun child parent link => ?_⟩
  exact falls child link.child_listed parent link.parent_listed link.linked

/-- Two rounds lead from 7 to 4 and 2, where the search ends, and there is nothing above 9. -/
theorem FlatTree.ancestors_areLineage_scattered
    : scattered.IsForest
      ∧ scattered.EndsAfter 7 2 (scattered.ancestors 7)
      ∧ (scattered.ancestors 7).map (·.id) = [4, 2]
      ∧ scattered.path 7 = [2, 4, 7]
      ∧ scattered.ancestors 9 = []
      ∧ scattered.index[4]? = some 3 := by
  obtain ⟨ends, -, upward, -⟩ := ancestors_areLineage scattered_isForest 7
  obtain ⟨-, -, -, outside, -⟩ := ancestors_areLineage scattered_isForest 9
  obtain ⟨-, -, -, -, -, -, table⟩ := ancestors_areLineage scattered_isForest 4
  obtain ⟨-, -, way, -⟩ := upward _ List.mem_cons_self rfl
  exact ⟨scattered_isForest, ends, rfl, way, (outside (by decide)).1, table⟩

end SyntaxExplorer
