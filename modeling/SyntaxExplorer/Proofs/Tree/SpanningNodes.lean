import SyntaxExplorer.Proofs.Text.Rows
import SyntaxExplorer.Proofs.Tree.Lookups
import SyntaxExplorer.Tree.Span

/-! The node that is found for a part of the text, going down from the root: it spans the part, and none
of its children does.  On the way down only the first child that reaches far enough is looked at, so
this rests on the order of the children.
-/

namespace SyntaxExplorer

/-- What is before a point is before all that is not before that point. -/
theorem Point.isBefore_of_not_before {first middle last : Point}
    (before : first.isBefore middle = true) (order : last.isBefore middle = false)
    : first.isBefore last = true := by
  rw [isBefore_iff] at before ⊢
  rw [isBefore_eq_false_iff] at order
  omega

namespace Node

variable {first last : Point}

/-- A node spans a part of the text: it starts where the part does or earlier, it ends where the part
does or later, and it does not end where the part starts, unless it is empty.
-/
structure Spans (node : Node) (first last : Point) : Prop where
  start : first.isBefore node.facts.start.point = false
  stop : node.facts.stop.point.isBefore last = false
  reached
    : node.facts.start.point = node.facts.stop.point
      ∨ first.isBefore node.facts.stop.point = true

/-- No child of a node starts before those that stand in front of it. -/
def HasChildrenInOrder (node : Node) : Prop :=
  node.children.Pairwise fun earlier later =>
    later.facts.start.point.isBefore earlier.facts.start.point = false

/-- A node of a tree is the smallest one that spans a part of the text.  It may be the root if no node
spans the part.
-/
structure IsSmallestSpanning (root : Node) (first last : Point) (node : Node) : Prop where
  member : node ∈ root.nodes
  spans : node = root ∨ node.Spans first last
  smallest : node.HasChildrenInOrder → ∀ child ∈ node.children, ¬ child.Spans first last

-----------------------------------------------------------------------------------------
-- Children that do not span the part
-----------------------------------------------------------------------------------------

/-- A node that does not end before a part of the text ends where one may that spans it. -/
theorem endsBefore_eq_false_iff {node : Node} (order : last.isBefore first = false)
    : node.endsBefore first last = false
      ↔ node.facts.stop.point.isBefore last = false
        ∧ (node.facts.start.point = node.facts.stop.point
          ∨ first.isBefore node.facts.stop.point = true) := by
  simp only [endsBefore, Bool.or_eq_false_iff]
  refine and_congr_right fun reached => ?_
  by_cases empty : node.facts.start.point = node.facts.stop.point
  · -- An empty node that ends late enough for the end of the part does so for its start.
    have late : node.facts.stop.point.isBefore first = false := by
      rw [Point.isBefore_eq_false_iff] at order reached ⊢
      omega
    simp [empty, late]
  · simp [empty]

/-- A node spans a part of the text exactly if it neither ends before it nor starts in it. -/
theorem spans_iff {node : Node} (order : last.isBefore first = false)
    : node.Spans first last
      ↔ node.endsBefore first last = false
        ∧ first.isBefore node.facts.start.point = false := by
  rw [endsBefore_eq_false_iff order]
  constructor
  · rintro ⟨start, stop, reached⟩
    exact ⟨⟨stop, reached⟩, start⟩
  · rintro ⟨⟨stop, reached⟩, start⟩
    exact ⟨start, stop, reached⟩

/-- If the first children of a node end before a part, and the next one starts in it if there is one,
then none of the children spans it, provided that they stand in order.
-/
theorem not_spans_of_split {node child : Node} {earlier later : List Node}
    (order : last.isBefore first = false) (whole : node.children = earlier ++ later)
    (early : ∀ child ∈ earlier, child.endsBefore first last = true)
    (late : ∀ child ∈ later.head?, first.isBefore child.facts.start.point = true)
    (ordered : node.HasChildrenInOrder) (member : child ∈ node.children)
    : ¬ child.Spans first last := by
  intro spans
  obtain ⟨reaches, starts⟩ := (spans_iff order).mp spans
  rw [HasChildrenInOrder, whole, List.pairwise_append] at ordered
  rw [whole, List.mem_append] at member
  rcases member with before | behind
  · rw [early child before] at reaches
    cases reaches
  · cases later with
    | nil => cases behind
    | cons next rest =>
        have ahead := late next rfl
        have after : first.isBefore child.facts.start.point = true := by
          rcases List.mem_cons.mp behind with rfl | further
          · exact ahead
          · exact Point.isBefore_of_not_before ahead
              ((List.pairwise_cons.mp ordered.2.1).1 child further)
        rw [after] at starts
        cases starts

-----------------------------------------------------------------------------------------
-- Going down
-----------------------------------------------------------------------------------------

/-- What is below a child is below the node, by induction over the children. -/
theorem mem_nodesAmong {children : List Node} {child node : Node} (member : child ∈ children)
    (within : node ∈ child.nodes)
    : node ∈ nodesAmong children := by
  induction children with
  | nil => cases member
  | cons other rest ih =>
      rw [nodesAmong, List.mem_append]
      rcases List.mem_cons.mp member with rfl | later
      · exact .inl within
      · exact .inr (ih later)

/-- The smallest node below a child that spans a part is the smallest one below the node. -/
theorem IsSmallestSpanning.of_child {outer child node : Node}
    (smallest : child.IsSmallestSpanning first last node) (member : child ∈ outer.children)
    (spans : child.Spans first last)
    : outer.IsSmallestSpanning first last node where
  member := by
    rw [nodes_eq]
    exact List.mem_cons_of_mem _ (mem_nodesAmong member smallest.member)
  spans := by
    rcases smallest.spans with rfl | within
    · exact .inr spans
    · exact .inr within
  smallest := smallest.smallest

/-- A node itself is the smallest one if none of its children spans the part. -/
theorem IsSmallestSpanning.self {node : Node}
    (smallest
      : node.HasChildrenInOrder → ∀ child ∈ node.children, ¬ child.Spans first last)
    : node.IsSmallestSpanning first last node where
  member := by
    rw [nodes_eq]
    exact List.mem_cons_self
  spans := .inl rfl
  smallest := smallest

mutual

/-- Going down from a node ends at the smallest node of its subtree that spans the part, by induction
over the subtree.
-/
theorem descendIn_isSmallest (order : last.isBefore first = false) (node : Node)
    : node.IsSmallestSpanning first last (descendIn first last node) := by
  cases node with
  | mk facts children =>
      rw [descendIn]
      exact descendAmong_isSmallest order (.mk facts children) [] children rfl nofun

/-- Going on among the last children of a node does so too if the others end before the part, by
induction over those that are left.
-/
theorem descendAmong_isSmallest (order : last.isBefore first = false) (outer : Node)
    (earlier later : List Node) (whole : outer.children = earlier ++ later)
    (early : ∀ child ∈ earlier, child.endsBefore first last = true)
    : outer.IsSmallestSpanning first last (descendAmong first last outer later) := by
  cases later with
  | nil => exact .self fun ordered _ => not_spans_of_split order whole early nofun ordered
  | cons child rest =>
      rw [descendAmong]
      cases ends : child.endsBefore first last with
      | true =>
          have next : outer.children = (earlier ++ [child]) ++ rest := by
            rw [whole, List.append_assoc, List.singleton_append]
          refine descendAmong_isSmallest order outer (earlier ++ [child]) rest next ?_
          intro other member
          rcases List.mem_append.mp member with before | here
          · exact early other before
          · rw [List.mem_singleton.mp here, ends]
      | false =>
          cases starts : first.isBefore child.facts.start.point with
          | true =>
              refine .self fun ordered _ => not_spans_of_split order whole early ?_ ordered
              rintro _ ⟨⟩
              exact starts
          | false =>
              have member : child ∈ outer.children := by
                rw [whole]
                exact List.mem_append_right _ List.mem_cons_self
              exact (descendIn_isSmallest order child).of_child member
                ((spans_iff order).mpr ⟨ends, starts⟩)

end

/-- What is found for a part of the text is the smallest node that spans it. -/
theorem isSmallest_of_smallestSpanning? {root node : Node}
    (found : root.smallestSpanning? first last = some node)
    : root.IsSmallestSpanning first last node := by
  rw [smallestSpanning?] at found
  split at found
  · cases found
  · rename_i order
    cases found
    exact descendIn_isSmallest (Bool.not_eq_true _ |>.mp order) root

end Node

end SyntaxExplorer
