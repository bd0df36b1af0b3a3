import Mathlib.Data.List.Induction
import Mathlib.Data.List.Perm.Subperm
import Mathlib.Data.List.TakeWhile
import SyntaxExplorer.Proofs.Tree.Lookups

/-! The ancestors that a listing finds.  The parent of an entry is a number of the whole tree, so a
chain of parents ends at the first node without an entry: an anonymous node hides the nodes above it
together with itself.
-/

namespace SyntaxExplorer

-----------------------------------------------------------------------------------------
-- The nodes above a node
-----------------------------------------------------------------------------------------

/-- Visits are those of the nodes above the one that a path leads to, the closest first. -/
inductive Node.Above (root : Node) : List Nat → List Visit → Prop
  | start : root.Above [] []
  | child {path index holder above} (parent : Visit.IsAt root path holder)
    (further : root.Above path above)
    : root.Above (path ++ [index]) (holder :: above)

namespace Node

variable {root : Node} {path : List Nat} {visit : Visit} {above : List Visit}

/-- The walk meets the node that a path leads to. -/
theorem exists_isAt (reached : (root.descendant? path).isSome)
    : ∃ visit ∈ root.preorder, visit.IsAt root path := by
  obtain ⟨length, pairs⟩ := List.forall₂_iff_get.mp root.preorder_isAt
  obtain ⟨place, bound, rfl⟩ := List.mem_iff_getElem.mp ((mem_paths_iff root path).mpr reached)
  exact ⟨_, List.getElem_mem (length ▸ bound), pairs place bound (length ▸ bound)⟩

/-- The walk meets what is at a path, and nothing else. -/
theorem mem_preorder_iff : visit ∈ root.preorder ↔ ∃ path, visit.IsAt root path := by
  constructor
  · intro met
    obtain ⟨length, pairs⟩ := List.forall₂_iff_get.mp root.preorder_isAt
    obtain ⟨place, bound, rfl⟩ := List.mem_iff_getElem.mp met
    exact ⟨_, pairs place (length ▸ bound) bound⟩
  · rintro ⟨path, here⟩
    obtain ⟨other, met, there⟩ := exists_isAt (Option.isSome_iff_exists.mpr ⟨_, here.node⟩)
    rw [isAt_unique here there]
    exact met

/-- Each path has its nodes above, by induction over the path from its end. -/
theorem exists_above (reached : (root.descendant? path).isSome)
    : ∃ above, root.Above path above := by
  induction path using List.reverseRecOn with
  | nil => exact ⟨[], .start⟩
  | append_singleton path index ih =>
      rw [descendant?_append] at reached
      have parent : (root.descendant? path).isSome := Option.isSome_of_isSome_bind reached
      obtain ⟨holder, -, here⟩ := exists_isAt parent
      obtain ⟨above, further⟩ := ih parent
      exact ⟨holder :: above, .child here further⟩

namespace Above

/-- The nodes above are met by the walk. -/
theorem mem_preorder (chain : root.Above path above) (listed : visit ∈ above)
    : visit ∈ root.preorder := by
  induction chain with
  | start => cases listed
  | child parent _ ih =>
      rcases List.mem_cons.mp listed with rfl | further
      · exact mem_preorder_iff.mpr ⟨_, parent⟩
      · exact ih further

/-- There is one node above on each level, down from that of the node. -/
theorem depths (chain : root.Above path above)
    : above.map (·.depth) = (List.range path.length).reverse := by
  induction chain with
  | start => rfl
  | child parent _ ih =>
      rw [List.map_cons, ih, parent.depth, List.length_append, List.length_singleton,
        List.range_succ, List.reverse_append]
      rfl

theorem nodup (chain : root.Above path above) : above.Nodup := by
  have depths : (above.map (·.depth)).Nodup := by
    rw [chain.depths, List.nodup_reverse]
    exact List.nodup_range
  exact depths.of_map

end Above

end Node

-----------------------------------------------------------------------------------------
-- Chains of parents
-----------------------------------------------------------------------------------------

namespace FlatTree

variable {root : Node} {source : String} {anonymous : Bool} {path : List Nat} {visit : Visit}
  {above : List Visit}

/-- From an entry the parents lead up as long as they have entries, by induction over the nodes
above it.
-/
theorem chain_ofNode (distinct : (root.nodes.map Node.id).Nodup) {fuel : Nat}
    (up : root.Above path above) (here : visit.IsAt root path)
    (enough : (above.takeWhile (Visit.isShown anonymous)).length ≤ fuel)
    : (ofNode source anonymous root).chain fuel (FlatNode.ofVisit source visit)
      = (above.takeWhile (Visit.isShown anonymous)).map (FlatNode.ofVisit source) := by
  induction up generalizing visit fuel with
  | start =>
      have top : (ofNode source anonymous root).parent? (FlatNode.ofVisit source visit) = none := by
        rw [parent?, FlatNode.ofVisit, here.parent]
        rfl
      cases fuel with
      | zero => rfl
      | succ fuel => rw [chain, top]; rfl
  | @child path index holder above parent further ih =>
      have up : (ofNode source anonymous root).parent? (FlatNode.ofVisit source visit)
          = (ofNode source anonymous root).find? holder.node.id := by
        rw [parent?, FlatNode.ofVisit, here.parent, if_neg (by simp), List.dropLast_concat,
          parent.node]
        rfl
      have met : holder ∈ root.preorder := Node.mem_preorder_iff.mpr ⟨path, parent⟩
      cases shown : holder.isShown anonymous with
      | false =>
          rw [List.takeWhile_cons_of_neg (by simp [shown])]
          cases fuel with
          | zero => rfl
          | succ fuel => rw [chain, up, find?_of_hidden distinct met shown]; rfl
      | true =>
          rw [List.takeWhile_cons_of_pos shown] at enough ⊢
          cases fuel with
          | zero => cases enough
          | succ fuel =>
              rw [chain, up, find?_of_shown distinct met shown]
              exact congrArg _ (ih parent (Nat.le_of_succ_le_succ enough))

/-- The shown nodes above a node have entries of their own, so the chain is never cut short. -/
theorem length_takeWhile_above (distinct : (root.nodes.map Node.id).Nodup)
    (up : root.Above path above)
    : (above.takeWhile (Visit.isShown anonymous)).length
      ≤ (ofNode source anonymous root).length := by
  have within : above.takeWhile (Visit.isShown anonymous)
      ⊆ root.preorder.filter (Visit.isShown anonymous) := by
    intro holder listed
    have shown := List.mem_takeWhile_imp listed
    have met := up.mem_preorder ((List.takeWhile_sublist _).subset listed)
    exact List.mem_filter.mpr ⟨met, shown⟩
  have apart := up.nodup.sublist (List.takeWhile_sublist (Visit.isShown anonymous))
  rw [length, nodes_ofNode source anonymous distinct, List.length_map]
  exact (apart.subperm within).length_le

/-- The ancestors that a listing finds are the closest ones that it shows, up to the first that it
does not.
-/
theorem ancestors_ofNode (distinct : (root.nodes.map Node.id).Nodup) (here : visit.IsAt root path)
    (up : root.Above path above) (shown : visit.isShown anonymous = true)
    : (ofNode source anonymous root).ancestors visit.node.id
      = (above.takeWhile (Visit.isShown anonymous)).map (FlatNode.ofVisit source) := by
  have met : visit ∈ root.preorder := Node.mem_preorder_iff.mpr ⟨path, here⟩
  rw [ancestors, find?_of_shown distinct met shown]
  exact chain_ofNode distinct up here (length_takeWhile_above distinct up)

/-- The path of an entry leads down through the same ancestors. -/
theorem path_ofNode (distinct : (root.nodes.map Node.id).Nodup) (here : visit.IsAt root path)
    (up : root.Above path above) (shown : visit.isShown anonymous = true)
    : (ofNode source anonymous root).path visit.node.id
      = ((above.takeWhile (Visit.isShown anonymous)).map (·.node.id)).reverse
        ++ [visit.node.id] := by
  have met : visit ∈ root.preorder := Node.mem_preorder_iff.mpr ⟨path, here⟩
  have listed : FlatNode.ofVisit source visit ∈ (ofNode source anonymous root).nodes :=
    (mem_nodes_iff distinct).mpr ⟨visit, met, shown, rfl⟩
  have placed : ((ofNode source anonymous root).position? visit.node.id).isSome :=
    isSome_position? listed
  rw [FlatTree.path, ancestors_ofNode distinct here up shown, if_pos placed, List.map_reverse,
    List.map_map]
  rfl

/-- What is taken from the front is all that a list has to offer exactly if the rest offers nothing. -/
theorem map_takeWhile_eq_iff {α β : Type} {wanted : α → Bool} {list : List α} (key : α → β)
    : (list.takeWhile wanted).map key = (list.filter wanted).map key
      ↔ ∀ member ∈ list.dropWhile wanted, wanted member = false := by
  have front : (list.takeWhile wanted).filter wanted = list.takeWhile wanted :=
    List.filter_eq_self.mpr fun _ => List.mem_takeWhile_imp
  have split : list.filter wanted = list.takeWhile wanted ++ (list.dropWhile wanted).filter wanted := by
    calc list.filter wanted
      _ = (list.takeWhile wanted ++ list.dropWhile wanted).filter wanted := by
        rw [List.takeWhile_append_dropWhile]
      _ = list.takeWhile wanted ++ (list.dropWhile wanted).filter wanted := by
        rw [List.filter_append, front]
  rw [split, List.map_append, List.self_eq_append_right, List.map_eq_nil_iff,
    List.filter_eq_nil_iff]
  simp only [Bool.not_eq_true]

/-- The entries of a listing stand for the shown nodes, each at a path with its nodes above. -/
theorem mem_nodes_ofNode_iff (distinct : (root.nodes.map Node.id).Nodup) {entry : FlatNode}
    : entry ∈ (ofNode source anonymous root).nodes
      ↔ ∃ path visit above,
          Visit.IsAt root path visit
          ∧ root.Above path above
          ∧ visit.isShown anonymous = true
          ∧ entry = FlatNode.ofVisit source visit := by
  rw [mem_nodes_iff distinct]
  constructor
  · rintro ⟨visit, met, shown, rfl⟩
    obtain ⟨path, here⟩ := Node.mem_preorder_iff.mp met
    obtain ⟨above, up⟩ := Node.exists_above (Option.isSome_iff_exists.mpr ⟨_, here.node⟩)
    exact ⟨path, visit, above, here, up, shown, rfl⟩
  · rintro ⟨path, visit, above, here, -, shown, rfl⟩
    exact ⟨visit, Node.mem_preorder_iff.mpr ⟨path, here⟩, shown, rfl⟩

/-- In the listing of a tree whose nodes have numbers of their own, the ancestors of an entry are
those of the nodes above it that are shown, the closest first, up to the first one that is not; and
its path leads from the outermost of these down to itself.  So none is missing where all nodes are
listed, and otherwise exactly if there is no shown node above one that is not shown.
-/
theorem ancestors_closestShown {root : Node} (source : String) (anonymous : Bool)
    (distinct : (root.nodes.map Node.id).Nodup)
    : let flat := ofNode source anonymous root
      let shown := Visit.isShown anonymous
      (∀ entry,
        entry ∈ flat.nodes
        ↔ ∃ path visit above,
            Visit.IsAt root path visit
            ∧ root.Above path above
            ∧ shown visit = true
            ∧ entry = FlatNode.ofVisit source visit)
      ∧ ∀ path visit above,
          Visit.IsAt root path visit
          → root.Above path above
          → shown visit = true
          → let id := visit.node.id
            let entries := List.map (FlatNode.ofVisit source)
            let numbers := List.map fun holder : Visit => holder.node.id
            flat.ancestors id = entries (above.takeWhile shown)
            ∧ flat.path id = (numbers (above.takeWhile shown)).reverse ++ [id]
            ∧ (anonymous = true → flat.ancestors id = entries above)
            ∧ (flat.ancestors id = entries (above.filter shown)
              ↔ ∀ holder ∈ above.dropWhile shown, shown holder = false)
            ∧ (flat.path id = (numbers (above.filter shown)).reverse ++ [id]
              ↔ ∀ holder ∈ above.dropWhile shown, shown holder = false) := by
  intro flat shown
  refine ⟨fun entry => mem_nodes_ofNode_iff distinct, ?_⟩
  intro path visit above here up isShown id entries numbers
  have ancestors : flat.ancestors id = entries (above.takeWhile shown) :=
    ancestors_ofNode distinct here up isShown
  have way : flat.path id = (numbers (above.takeWhile shown)).reverse ++ [id] :=
    path_ofNode distinct here up isShown
  refine ⟨ancestors, way, ?_, ?_, ?_⟩
  · rintro rfl
    have all : above.takeWhile shown = above := List.takeWhile_eq_self_iff.mpr fun _ _ => rfl
    rw [ancestors, all]
  · rw [ancestors]
    exact map_takeWhile_eq_iff (FlatNode.ofVisit source)
  · rw [way, List.append_left_inj, List.reverse_inj]
    exact map_takeWhile_eq_iff fun holder : Visit => holder.node.id

end FlatTree

/-- A tree in which an anonymous node has a pair below it. -/
def Node.bracketedPair : Node :=
  (listPart "list" true none
    [listPart "()" false none [listPart "pair" true none [listPart "name" true none []]]]).enumerate
    0

/-- The visit of its name. -/
def Node.nameVisit : Visit := bracketedPair.preorder[3]

/-- The visits of the nodes above the name, the closest first. -/
def Node.aboveName : List Visit := (bracketedPair.preorder.take 3).reverse

theorem Node.bracketedPair_distinct : (bracketedPair.nodes.map Node.id).Nodup :=
  enumerate_distinct 0 _

theorem Node.nameVisit_isAt : nameVisit.IsAt bracketedPair [0, 0, 0] := ⟨rfl, rfl, rfl, rfl, rfl⟩

theorem Node.aboveName_isAbove : bracketedPair.Above [0, 0, 0] aboveName := by
  have list : bracketedPair.preorder[0].IsAt bracketedPair [] := ⟨rfl, rfl, rfl, rfl, rfl⟩
  have brackets : bracketedPair.preorder[1].IsAt bracketedPair [0] := ⟨rfl, rfl, rfl, rfl, rfl⟩
  have pair : bracketedPair.preorder[2].IsAt bracketedPair [0, 0] := ⟨rfl, rfl, rfl, rfl, rfl⟩
  exact .child pair (.child brackets (.child list .start))

namespace FlatTree

open Node

/-- With the brackets all three nodes above the name are its ancestors, and without them only the
pair is.
-/
theorem ancestors_closestShown_brackets
    : (bracketedPair.nodes.map Node.id).Nodup
      ∧ nameVisit.IsAt bracketedPair [0, 0, 0]
      ∧ bracketedPair.Above [0, 0, 0] aboveName
      ∧ ((ofNode "a" true bracketedPair).ancestors 3).map (·.id) = [2, 1, 0]
      ∧ ((ofNode "a" false bracketedPair).ancestors 3).map (·.id) = [2]
      ∧ (ofNode "a" false bracketedPair).path 3 = [2, 3] := by
  obtain ⟨-, whole⟩ := ancestors_closestShown "a" true bracketedPair_distinct
  obtain ⟨-, named⟩ := ancestors_closestShown "a" false bracketedPair_distinct
  obtain ⟨-, -, all, -⟩ := whole _ _ _ nameVisit_isAt aboveName_isAbove rfl
  obtain ⟨ancestors, way, -⟩ := named _ _ _ nameVisit_isAt aboveName_isAbove rfl
  refine ⟨bracketedPair_distinct, nameVisit_isAt, aboveName_isAbove, ?_, ?_, way⟩
  · exact congrArg (List.map (·.id)) (all rfl)
  · exact congrArg (List.map (·.id)) ancestors

/-- The list is above the name and has an entry, but it is not among the ancestors that the name is
given, nor on its path.
-/
theorem ancestors_missList
    : let flat := ofNode "a" false bracketedPair
      let shown := aboveName.filter (Visit.isShown false)
      flat.nodes.map (fun entry => (entry.id, entry.parent, entry.kind))
        = [(0, none, "list"), (2, some 1, "pair"), (3, some 2, "name")]
      ∧ bracketedPair.Above [0, 0, 0] aboveName
      ∧ shown.map (fun holder => holder.node.facts.kind) = ["pair", "list"]
      ∧ (flat.ancestors 3).map (·.kind) = ["pair"]
      ∧ flat.ancestors 3 ≠ shown.map (FlatNode.ofVisit "a")
      ∧ flat.path 3 ≠ (shown.map (·.node.id)).reverse ++ [3] := by
  intro flat shown
  have ancestors : flat.ancestors 3 = [FlatNode.ofVisit "a" bracketedPair.preorder[2]] :=
    ancestors_ofNode bracketedPair_distinct nameVisit_isAt aboveName_isAbove rfl
  have way : flat.path 3 = [2, 3] :=
    path_ofNode bracketedPair_distinct nameVisit_isAt aboveName_isAbove rfl
  refine ⟨?_, aboveName_isAbove, rfl, ?_, ?_, ?_⟩
  · rw [nodes_ofNode "a" false bracketedPair_distinct]
    rfl
  · rw [ancestors]
    rfl
  · rw [ancestors]
    exact fun same => absurd (congrArg List.length same) (by decide)
  · rw [way]
    decide

end FlatTree

end SyntaxExplorer
