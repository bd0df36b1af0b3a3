import SyntaxExplorer.Tree.Node
/-!
The walk through a tree.  A cursor stands at a node, with the siblings that follow it and the places
above it; it never leaves the subtree in which it started.  The walk moves a cursor and keeps the
numbers of the nodes above it; it is over when it is to leave the node with the number of its root.
-/

namespace SyntaxExplorer

/-- A node met on the walk, with its place below the start. -/
structure Visit where
  node : Node
  /-- The number of edges from the start. -/
  depth : Nat
  parent : Option NodeId
  fieldId : Option Nat
  fieldName : Option String
  deriving Inhabited

/-- A place above the cursor: a node and the siblings after it. -/
structure CursorFrame where
  node : Node
  following : List Node
  deriving Inhabited

/-- A cursor in a subtree. -/
structure Cursor where
  node : Node
  following : List Node := []
  above : List CursorFrame := []
  deriving Inhabited

namespace Cursor

/-- A cursor at the start of a walk. -/
def start (node : Node) : Cursor := { node }

def firstChild? (cursor : Cursor) : Option Cursor :=
  match cursor.node.children with
  | [] => none
  | first :: rest => some ⟨first, rest, ⟨cursor.node, cursor.following⟩ :: cursor.above⟩

def nextSibling? (cursor : Cursor) : Option Cursor :=
  match cursor.above, cursor.following with
  | _ :: _, next :: rest => some { cursor with node := next, following := rest }
  | _, _ => none

def parent? (cursor : Cursor) : Option Cursor :=
  match cursor.above with
  | [] => none
  | frame :: above => some ⟨frame.node, frame.following, above⟩

/-- The field of the node at hand.  The start has none here. -/
def fieldId (cursor : Cursor) : Option Nat :=
  if cursor.above.isEmpty then none else cursor.node.facts.fieldId

/-- The name of that field. -/
def fieldName (cursor : Cursor) : Option String :=
  if cursor.above.isEmpty then none else cursor.node.facts.fieldName

/-- The number of nodes that come after some places. -/
def pendingAbove : List CursorFrame → Nat
  | [] => 0
  | frame :: above => Node.sizes frame.following + pendingAbove above

/-- The number of nodes that come after the subtree at hand. -/
def pending (cursor : Cursor) : Nat :=
  Node.sizes cursor.following + pendingAbove cursor.above

/-- The number of nodes from the one at hand on. -/
def ahead (cursor : Cursor) : Nat := cursor.node.size + cursor.pending

variable {cursor next : Cursor}

theorem ahead_of_firstChild? (moved : cursor.firstChild? = some next)
    : next.ahead < cursor.ahead := by
  obtain ⟨⟨facts, children⟩, following, above⟩ := cursor
  cases children with
  | nil => cases moved
  | cons first rest =>
      cases moved
      simp only [ahead, pending, pendingAbove, Node.size, Node.sizes]
      omega

theorem ahead_of_nextSibling? (moved : cursor.nextSibling? = some next)
    : next.ahead = cursor.pending := by
  obtain ⟨node, following, above⟩ := cursor
  cases above with
  | nil => cases moved
  | cons frame above =>
      cases following with
      | nil => cases moved
      | cons sibling rest =>
          cases moved
          simp only [ahead, pending, Node.sizes, Nat.add_assoc]

theorem pending_of_parent? (moved : cursor.parent? = some next)
    : next.pending ≤ cursor.pending := by
  obtain ⟨node, following, above⟩ := cursor
  cases above with
  | nil => cases moved
  | cons frame above =>
      cases moved
      simp only [pending, pendingAbove]
      omega

theorem length_above_of_parent? (moved : cursor.parent? = some next)
    : next.above.length < cursor.above.length := by
  obtain ⟨node, following, above⟩ := cursor
  cases above with
  | nil => cases moved
  | cons frame above =>
      cases moved
      exact Nat.lt_succ_self _

end Cursor

/-- A walk under way: a cursor, and the numbers of the nodes above it, the nearest first. -/
structure Walker where
  cursor : Cursor
  parents : List NodeId := []
  deriving Inhabited

namespace Walker

/-- A walk at its start. -/
def start (root : Node) : Walker := { cursor := .start root }

/-- The visit of the node at hand. -/
def visit (walker : Walker) : Visit :=
  { node := walker.cursor.node
    depth := walker.parents.length
    parent := walker.parents.head?
    fieldId := walker.cursor.fieldId
    fieldName := walker.cursor.fieldName }

/-- Goes down to the first child. -/
def descend? (walker : Walker) : Option Walker :=
  walker.cursor.firstChild?.map fun child => ⟨child, walker.cursor.node.id :: walker.parents⟩

/-- Goes on after a subtree: to the next sibling of the nearest node that has one.  There is no way on
from the node with the number of the root. -/
def climb? (root : NodeId) (walker : Walker) : Option Walker :=
  if walker.cursor.node.id = root then none
  else match walker.cursor.nextSibling? with
    | some next => some { walker with cursor := next }
    | none => match _ : walker.cursor.parent? with
      | some parent => climb? root ⟨parent, walker.parents.tail⟩
      | none => none
termination_by walker.cursor.above.length
decreasing_by exact Cursor.length_above_of_parent? ‹_›

/-- The next place of the walk. -/
def next? (root : NodeId) (walker : Walker) : Option Walker :=
  match walker.descend? with
  | some child => some child
  | none => walker.climb? root

/-- Climbing leaves the subtree at hand for one that comes later, by induction over the climb. -/
theorem ahead_of_climb? {root : NodeId} {walker next : Walker}
    (moved : walker.climb? root = some next)
    : next.cursor.ahead ≤ walker.cursor.pending := by
  fun_induction climb? root walker with
  | case1 => cases moved
  | case2 walker elsewhere sibling found =>
      cases moved
      exact Nat.le_of_eq (Cursor.ahead_of_nextSibling? found)
  | case3 walker elsewhere last parent found ih =>
      exact Nat.le_trans (ih moved) (Cursor.pending_of_parent? found)
  | case4 => cases moved

/-- Each step of the walk leaves fewer nodes to visit. -/
theorem ahead_of_next? {root : NodeId} {walker next : Walker}
    (moved : walker.next? root = some next)
    : next.cursor.ahead < walker.cursor.ahead := by
  rw [next?] at moved
  split at moved
  · rename_i child down
    cases moved
    obtain ⟨cursor, found, rfl⟩ := Option.map_eq_some_iff.mp down
    exact Cursor.ahead_of_firstChild? found
  · calc next.cursor.ahead
      _ ≤ walker.cursor.pending := ahead_of_climb? moved
      _ < walker.cursor.ahead := Nat.lt_add_of_pos_left walker.cursor.node.size_pos

/-- The visits from a place of the walk on. -/
def visits (root : NodeId) (walker : Walker) : List Visit :=
  walker.visit :: match _ : walker.next? root with
    | some next => next.visits root
    | none => []
termination_by walker.cursor.ahead
decreasing_by exact ahead_of_next? ‹_›

end Walker

namespace Node

/-- The walk through a subtree: each node once, parents before children, in the order of the text. -/
def walk (root : Node) : List Visit := (Walker.start root).visits root.id

/-- The number of nodes that the walk meets. -/
def count (root : Node) : Nat := root.walk.length

mutual

/-- The node of a number in a subtree. -/
def find? (id : NodeId) : Node → Option Node
  | mk facts children => if facts.id = id then some (mk facts children) else findIn? id children

def findIn? (id : NodeId) : List Node → Option Node
  | [] => none
  | first :: rest => first.find? id <|> findIn? id rest

end

/-- The node that a path of child indexes leads to. -/
def descendant? (root : Node) : List Nat → Option Node
  | [] => some root
  | index :: path => (root.children[index]?).bind (·.descendant? path)

end Node

end SyntaxExplorer
