import SyntaxExplorer.Proofs.Tree.Lookups

/-! Subtrees as blocks of a listing.  The nodes of a subtree stand in a row in the list of the whole
tree, as they do in the list of the subtree alone, only deeper.  So the last entry before another
that is one level higher is its parent: all between them is below that parent.
-/

namespace SyntaxExplorer

-----------------------------------------------------------------------------------------
-- Blocks of the recursive walk
-----------------------------------------------------------------------------------------

/-- A visit so many edges further down. -/
def Visit.deepen (edges : Nat) (visit : Visit) : Visit :=
  { visit with depth := visit.depth + edges }

/-- A visit, with the visits of the subtrees of the children of its node. -/
def Visit.block (visit : Visit) : List Visit :=
  visit :: Node.visitsAmong (visit.depth + 1) visit.node.id visit.node.children

namespace Node

variable {node : Node}

mutual

/-- A subtree is visited further down as it is further up. -/
theorem visitsBelow_add (depth edges : Nat) (parent : NodeId) (node : Node)
    : node.visitsBelow (depth + edges) parent
      = (node.visitsBelow depth parent).map (Visit.deepen edges) := by
  cases node with
  | mk facts children =>
      rw [visitsBelow, visitsBelow, List.map_cons, Nat.add_right_comm,
        visitsAmong_add (depth + 1) edges facts.id children]
      rfl

theorem visitsAmong_add (depth edges : Nat) (parent : NodeId) (children : List Node)
    : visitsAmong (depth + edges) parent children
      = (visitsAmong depth parent children).map (Visit.deepen edges) := by
  cases children with
  | nil => rfl
  | cons first rest =>
      rw [visitsAmong, visitsAmong, List.map_append, visitsBelow_add depth edges parent first,
        visitsAmong_add depth edges parent rest]

end

theorem depth_le_of_mem_visitsAmong {depth : Nat} {parent : NodeId} {children : List Node}
    {visit : Visit} (met : visit ∈ visitsAmong depth parent children)
    : depth ≤ visit.depth := by
  rw [← Nat.zero_add depth, visitsAmong_add] at met
  obtain ⟨above, -, rfl⟩ := List.mem_map.mp met
  exact Nat.le_add_left depth above.depth

theorem depth_le_of_mem_visitsBelow {depth : Nat} {parent : NodeId} {visit : Visit}
    (met : visit ∈ node.visitsBelow depth parent)
    : depth ≤ visit.depth := by
  rw [← Nat.zero_add depth, visitsBelow_add] at met
  obtain ⟨above, -, rfl⟩ := List.mem_map.mp met
  exact Nat.le_add_left depth above.depth

mutual

/-- Below each node the walk of a tree meets its block, by induction over the tree. -/
theorem visitsBelow_hasBlock (depth : Nat) (parent : NodeId) (tree : Node)
    (within : node ∈ tree.nodes)
    : ∃ visit : Visit, visit.node = node ∧ visit.block <:+: tree.visitsBelow depth parent := by
  cases tree with
  | mk facts children =>
      rw [nodes] at within
      rw [visitsBelow]
      rcases List.mem_cons.mp within with rfl | below
      · exact ⟨_, rfl, List.infix_rfl⟩
      · obtain ⟨visit, same, met⟩ :=
          visitsAmong_hasBlock (depth + 1) facts.id children below
        exact ⟨visit, same, met.trans (List.suffix_cons _ _).isInfix⟩

theorem visitsAmong_hasBlock (depth : Nat) (parent : NodeId) (children : List Node)
    (within : node ∈ nodesAmong children)
    : ∃ visit : Visit,
        visit.node = node ∧ visit.block <:+: visitsAmong depth parent children := by
  cases children with
  | nil => cases within
  | cons first rest =>
      rw [nodesAmong] at within
      rw [visitsAmong]
      rcases List.mem_append.mp within with here | later
      · obtain ⟨visit, same, met⟩ := visitsBelow_hasBlock depth parent first here
        exact ⟨visit, same, met.trans (List.prefix_append _ _).isInfix⟩
      · obtain ⟨visit, same, met⟩ := visitsAmong_hasBlock depth parent rest later
        exact ⟨visit, same, met.trans (List.suffix_append _ _).isInfix⟩

end

/-- The whole walk meets the block of each node, which is all of it for the start. -/
theorem preorder_hasBlock (root : Node) (within : node ∈ root.nodes)
    : ∃ visit : Visit, visit.node = node ∧ visit.block <:+: root.preorder := by
  rw [nodes_eq] at within
  rcases List.mem_cons.mp within with rfl | below
  · exact ⟨_, rfl, List.infix_rfl⟩
  · obtain ⟨visit, same, met⟩ := visitsAmong_hasBlock 1 root.id root.children below
    exact ⟨visit, same, met.trans (List.suffix_cons _ _).isInfix⟩

end Node

theorem Visit.map_node_block (visit : Visit) : visit.block.map (·.node) = visit.node.nodes := by
  rw [block, List.map_cons, Node.map_node_visitsAmong, Node.nodes_eq]

-----------------------------------------------------------------------------------------
-- Blocks of a listing
-----------------------------------------------------------------------------------------

/-- An entry so many levels further up. -/
def FlatNode.raise (levels : Nat) (node : FlatNode) : FlatNode :=
  { node with level := node.level - levels }

/-- An entry that has neither parent nor field. -/
def FlatNode.uproot (node : FlatNode) : FlatNode :=
  { node with parent := none, fieldId := FlatNode.noField, fieldName := "" }

namespace FlatTree

/-- Some entries as a listing of its own, which counts from a level: only the first loses its parent
and its field.
-/
def replant (level : Nat) : List FlatNode → List FlatNode
  | [] => []
  | first :: rest => (first.raise level).uproot :: rest.map (FlatNode.raise level)

/-- A block becomes the listing of its node when it is counted from its own depth. -/
theorem replant_block (source : String) (visit : Visit)
    : replant visit.depth (visit.block.map (FlatNode.ofVisit source))
      = visit.node.preorder.map (FlatNode.ofVisit source) := by
  have first : ((FlatNode.ofVisit source visit).raise visit.depth).uproot
      = FlatNode.ofVisit source ⟨visit.node, 0, none, none, none⟩ := by
    simp [FlatNode.ofVisit, FlatNode.raise, FlatNode.uproot]
  have back : (FlatNode.raise visit.depth ∘ FlatNode.ofVisit source) ∘ Visit.deepen visit.depth
      = FlatNode.ofVisit source := by
    funext below
    simp [FlatNode.ofVisit, FlatNode.raise, Visit.deepen]
  rw [Visit.block, Node.preorder, List.map_cons, List.map_cons, replant, first,
    Nat.add_comm visit.depth 1, Node.visitsAmong_add, List.map_map, List.map_map, back]

section Parts

variable {α β : Type} {all earlier part later : List α} {place : Nat} {member : α}

/-- What stands at a place of a part of a list is in that part. -/
theorem mem_part (split : earlier ++ part ++ later = all) (listed : all[place]? = some member)
    (behind : earlier.length ≤ place) (before : place < earlier.length + part.length)
    : member ∈ part := by
  rw [← split, List.append_assoc, List.getElem?_append_right behind,
    List.getElem?_append_left (by omega)] at listed
  exact List.mem_of_getElem? listed

/-- Where keys do not repeat, those of a part of a list stand at the places of that part. -/
theorem key_mem_part_iff {key : α → β} (distinct : (all.map key).Nodup)
    (split : earlier ++ part ++ later = all) (listed : all[place]? = some member)
    : key member ∈ part.map key
      ↔ earlier.length ≤ place ∧ place < earlier.length + part.length := by
  constructor
  · intro within
    obtain ⟨offset, found⟩ := List.mem_iff_getElem?.mp within
    have inside : offset < part.length := by
      rw [← List.length_map key]
      exact (List.getElem?_eq_some_iff.mp found).1
    have here : (all.map key)[place]? = some (key member) := by
      rw [List.getElem?_map, listed, Option.map_some]
    have there : (all.map key)[earlier.length + offset]? = some (key member) := by
      rw [← found, List.getElem?_map, List.getElem?_map, ← split, List.append_assoc,
        List.getElem?_append_right (Nat.le_add_right _ _), Nat.add_sub_cancel_left,
        List.getElem?_append_left inside]
    have same : place = earlier.length + offset :=
      (List.getElem?_inj (List.getElem?_eq_some_iff.mp here).1 distinct).mp (here.trans there.symm)
    omega
  · rintro ⟨behind, before⟩
    exact List.mem_map.mpr ⟨member, mem_part split listed behind before, rfl⟩

end Parts

/-- An entry at a place heads the block of a node in a listing: it is the only one for the node, and
the entries for all that the node holds are those that follow it, as many as it counts, on deeper
levels.
-/
structure Heads (listing : List FlatNode) (node : Node) (place : Nat) (entry : FlatNode)
    : Prop where
  listed : listing[place]? = some entry
  only : ∀ other met, listing[other]? = some met → (met.id = node.id ↔ other = place)
  counted : entry.descendantCount = node.size
  occupied
    : ∀ other met,
        listing[other]? = some met
        → (met.id ∈ node.nodes.map Node.id
          ↔ place ≤ other ∧ other < place + entry.descendantCount)
  deeper
    : ∀ other met,
        listing[other]? = some met
        → place < other ∧ other < place + entry.descendantCount
        → entry.level < met.level

/-- Where the walk meets a block, the entry of its first visit heads it. -/
theorem heads_of_split {root : Node} {visit : Visit} {earlier later : List Visit} (source : String)
    (distinct : (root.nodes.map Node.id).Nodup)
    (split : earlier ++ visit.block ++ later = root.preorder)
    : Heads (root.preorder.map (FlatNode.ofVisit source)) visit.node earlier.length
        (FlatNode.ofVisit source visit) := by
  let entry := FlatNode.ofVisit source
  let below := Node.visitsAmong (visit.depth + 1) visit.node.id visit.node.children
  have distinctIds : ((root.preorder.map entry).map (·.id)).Nodup := by
    rw [List.map_map]
    exact root.ids_preorder.symm ▸ distinct
  have whole : root.preorder.map entry
      = earlier.map entry ++ visit.block.map entry ++ later.map entry := by
    rw [← split, List.map_append, List.map_append]
  have blockIds : (visit.block.map entry).map (·.id) = visit.node.nodes.map Node.id := by
    rw [← Visit.map_node_block, List.map_map, List.map_map]
    rfl
  have counted : visit.block.length = visit.node.size := by
    rw [← Node.length_nodes, ← Visit.map_node_block, List.length_map]
  constructor
  case listed =>
    rw [whole, Visit.block, List.append_assoc, List.getElem?_append_right (by simp)]
    simp [entry]
  case only =>
    intro other met found
    have alone : earlier.map entry ++ [entry visit] ++ (below.map entry ++ later.map entry)
        = root.preorder.map entry := by
      rw [whole, Visit.block]
      simp [below]
    have part := key_mem_part_iff distinctIds alone found
    simp only [List.map_singleton, List.mem_singleton, List.length_map, List.length_singleton]
      at part
    rw [show visit.node.id = (entry visit).id from rfl, part]
    omega
  case counted => rfl
  case occupied =>
    intro other met found
    have part := key_mem_part_iff distinctIds whole.symm found
    rw [blockIds, List.length_map, List.length_map, counted] at part
    exact part
  case deeper =>
    intro other met found ⟨behind, before⟩
    have tail : earlier.map entry ++ [entry visit] ++ below.map entry ++ later.map entry
        = root.preorder.map entry := by
      rw [whole, Visit.block]
      simp [below]
    have size : (FlatNode.ofVisit source visit).descendantCount = below.length + 1 := counted.symm
    have within : met ∈ below.map entry := by
      refine mem_part tail found ?_ ?_
      · simp
        omega
      · simp
        omega
    obtain ⟨deeper, under, rfl⟩ := List.mem_map.mp within
    exact Node.depth_le_of_mem_visitsAmong under

-----------------------------------------------------------------------------------------
-- Parents by their levels
-----------------------------------------------------------------------------------------

/-- The last of some entries that is one above a level. -/
def lastAbove (level : Nat) (entries : List FlatNode) : Option FlatNode :=
  entries.reverse.find? fun entry => entry.level + 1 == level

theorem lastAbove_concat {level : Nat} {entry : FlatNode} (earlier : List FlatNode)
    (above : entry.level + 1 = level)
    : lastAbove level (earlier ++ [entry]) = some entry := by
  simp [lastAbove, above]

/-- Entries on a level or below it are not above it. -/
theorem lastAbove_append {level : Nat} {later : List FlatNode} (earlier : List FlatNode)
    (deep : ∀ entry ∈ later, level ≤ entry.level)
    : lastAbove level (earlier ++ later) = lastAbove level earlier := by
  have none : later.reverse.find? (fun entry => entry.level + 1 == level) = none := by
    refine List.find?_eq_none.mpr fun entry listed => ?_
    have := deep entry (List.mem_reverse.mp listed)
    rw [beq_iff_eq]
    omega
  rw [lastAbove, List.reverse_append, List.find?_append, none, Option.none_or, lastAbove]

/-- Entries that follow others have parents among those and each other: for each entry it is the
last one before it that is one above its level.
-/
def FollowParents : List FlatNode → List FlatNode → Prop
  | _, [] => True
  | earlier, entry :: later =>
      (∃ holder, lastAbove entry.level earlier = some holder ∧ entry.parent = some holder.id)
      ∧ FollowParents (earlier ++ [entry]) later

theorem followParents_append {earlier later : List FlatNode} (first : List FlatNode)
    : FollowParents earlier (first ++ later)
      ↔ FollowParents earlier first ∧ FollowParents (earlier ++ first) later := by
  induction first generalizing earlier with
  | nil => simp [FollowParents]
  | cons entry first ih =>
      simp only [List.cons_append, FollowParents, ih, List.append_assoc, List.nil_append, and_assoc]

variable {source : String}

mutual

/-- The entries of a subtree follow the entry of its parent: the last one above them stays that
entry until the subtree is left.
-/
theorem visitsBelow_followParents {earlier : List FlatNode} {depth : Nat} {holder : FlatNode}
    (node : Node) (above : lastAbove depth earlier = some holder)
    : FollowParents earlier
        ((node.visitsBelow depth holder.id).map (FlatNode.ofVisit source)) := by
  cases node with
  | mk facts children =>
      rw [Node.visitsBelow, List.map_cons]
      exact ⟨⟨holder, above, rfl⟩, visitsAmong_followParents children (lastAbove_concat _ rfl)⟩

theorem visitsAmong_followParents {earlier : List FlatNode} {depth : Nat} {holder : FlatNode}
    (children : List Node) (above : lastAbove depth earlier = some holder)
    : FollowParents earlier
        ((Node.visitsAmong depth holder.id children).map (FlatNode.ofVisit source)) := by
  cases children with
  | nil => trivial
  | cons first rest =>
      have deep : ∀ entry ∈ (first.visitsBelow depth holder.id).map (FlatNode.ofVisit source),
          depth ≤ entry.level := by
        intro entry listed
        obtain ⟨visit, met, rfl⟩ := List.mem_map.mp listed
        exact Node.depth_le_of_mem_visitsBelow met
      rw [Node.visitsAmong, List.map_append, followParents_append]
      refine ⟨visitsBelow_followParents first above, visitsAmong_followParents rest ?_⟩
      rw [lastAbove_append earlier deep]
      exact above

end

/-- In the listing of a tree every entry but the first has its parent before it. -/
theorem parent_of_split {start : Node} {before after : List FlatNode} {entry : FlatNode}
    (split : start.preorder.map (FlatNode.ofVisit source) = before ++ entry :: after)
    (behind : before ≠ [])
    : ∃ holder, lastAbove entry.level before = some holder ∧ entry.parent = some holder.id := by
  obtain ⟨first, between, rfl⟩ := List.exists_cons_of_ne_nil behind
  rw [Node.preorder, List.map_cons, List.cons_append, List.cons.injEq] at split
  obtain ⟨rfl, rest⟩ := split
  let home := FlatNode.ofVisit source ⟨start, 0, none, none, none⟩
  have follow : FollowParents [home] (between ++ entry :: after) := by
    rw [← rest]
    exact visitsAmong_followParents start.children (lastAbove_concat [] rfl)
  exact ((followParents_append between).mp follow).2.1

end FlatTree

/-- Where the nodes of a tree have numbers of their own, each sits at one place of its listing,
followed by the entries for the nodes below it.  The listing of the node alone is that block, counted
from its level and with neither parent nor field for its first entry; without the anonymous nodes, it
is the named part of that.  The parent of each entry of the whole listing but the first is the last
entry before it that is one level higher.
-/
theorem FlatTree.subtrees_areBlocks {root node : Node} (source : String)
    (distinct : (root.nodes.map Node.id).Nodup) (within : node ∈ root.nodes)
    : let whole := (ofNode source true root).nodes
      (∃ place entry,
        Heads whole node place entry
        ∧ let block := (whole.drop place).take entry.descendantCount
          (ofNode source true node).nodes = replant entry.level block
          ∧ (ofNode source false node).nodes
            = (replant entry.level block).filter (·.isNamed))
      ∧ ∀ before entry after,
          whole = before ++ entry :: after
          → before ≠ []
          → ∃ holder,
              lastAbove entry.level before = some holder
              ∧ entry.parent = some holder.id := by
  intro whole
  have listing : whole = root.preorder.map (FlatNode.ofVisit source) :=
    nodes_ofNode_whole source distinct
  have alone : (ofNode source true node).nodes = node.preorder.map (FlatNode.ofVisit source) :=
    nodes_ofNode_whole source (Node.distinct_within distinct within)
  refine ⟨?_, fun before entry after split => parent_of_split (listing ▸ split)⟩
  obtain ⟨visit, rfl, earlier, later, split⟩ := Node.preorder_hasBlock root within
  have heads := heads_of_split source distinct split
  have block : (whole.drop earlier.length).take (FlatNode.ofVisit source visit).descendantCount
      = visit.block.map (FlatNode.ofVisit source) := by
    have counted : (visit.block.map (FlatNode.ofVisit source)).length
        = (FlatNode.ofVisit source visit).descendantCount := by
      rw [List.length_map, heads.counted, ← Node.length_nodes, ← Visit.map_node_block,
        List.length_map]
    rw [listing, ← split, List.map_append, List.map_append, List.append_assoc,
      List.drop_left' (List.length_map _), List.take_left' counted]
  have replanted := replant_block source visit
  rw [← block] at replanted
  refine ⟨earlier.length, FlatNode.ofVisit source visit, listing ▸ heads, ?_, ?_⟩
  · rw [alone, ← replanted]
    rfl
  · rw [nodes_ofNode_named, alone, ← replanted]
    rfl

/-- The group of `(a) b` takes up four places of the whole listing.  The name that follows it is a
child of the list: none of the entries of the group is one level above it.
-/
theorem FlatTree.subtrees_areBlocks_group
    : (Node.groupAndName.nodes.map Node.id).Nodup
      ∧ ∃ group ∈ Node.groupAndName.nodes, group.facts.fieldId = some 1
        ∧ let whole := (ofNode "(a) b" true Node.groupAndName).nodes
          whole.map (·.level) = [0, 1, 2, 2, 2, 1]
          ∧ (ofNode "(a) b" true group).nodes = replant 1 ((whole.drop 1).take 4)
          ∧ ∃ holder, lastAbove 1 (whole.take 5) = some holder ∧ holder.id = 0 := by
  have distinct : (Node.groupAndName.nodes.map Node.id).Nodup := Node.enumerate_distinct 0 _
  have within : Node.groupAndName.nodes[1] ∈ Node.groupAndName.nodes := List.getElem_mem _
  have listing : (ofNode "(a) b" true Node.groupAndName).nodes
      = Node.groupAndName.preorder.map (FlatNode.ofVisit "(a) b") :=
    nodes_ofNode_whole "(a) b" distinct
  obtain ⟨⟨place, entry, heads, block, -⟩, parents⟩ :=
    subtrees_areBlocks "(a) b" distinct within
  rw [listing] at heads block parents
  obtain rfl : 1 = place := (heads.only 1 _ rfl).mp rfl
  cases heads.listed
  obtain ⟨holder, above, -⟩ :=
    parents (((Node.groupAndName.preorder.map (FlatNode.ofVisit "(a) b"))).take 5) _ [] rfl
      (List.cons_ne_nil _ _)
  refine ⟨distinct, _, within, rfl, ?_, ?_, holder, ?_, ?_⟩
  · rw [listing]
    rfl
  · rw [listing, block]
    rfl
  · rw [listing]
    exact above
  · cases above
    rfl

end SyntaxExplorer
