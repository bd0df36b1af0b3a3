import SyntaxExplorer.Parsing.Subtree
/-!
The stack of a parser that may be undecided.  It is a graph: each version of the stack has a head, and
heads share the nodes below them, so versions that reach the same state at the same place can merge.
-/

namespace SyntaxExplorer.Parsing

/-- A step down the stack, with the subtree that was pushed there.  Without a subtree it marks where
an error began. -/
structure StackLink where
  node : Nat
  subtree : Option Subtree
  /-- Whether the subtree was reused whole, so that it may still have to be taken apart. -/
  pending : Bool
  deriving Inhabited

structure StackNode where
  state : Nat
  position : Extent := .zero
  links : Array StackLink := #[]
  errorCost : Nat := 0
  nodeCount : Nat := 0
  dynamicPrecedence : Int := 0
  deriving Inhabited

/-- A state below the head of a version, with the number of subtrees above it. -/
structure SummaryEntry where
  position : Extent
  depth : Nat
  state : Nat
  deriving Inhabited

inductive VersionStatus
  | active
  | paused (lookahead : Subtree)
  | halted
  deriving Inhabited

structure Version where
  node : Nat
  status : VersionStatus := .active
  nodeCountAtLastError : Nat := 0
  summary : Option (Array SummaryEntry) := none
  deriving Inhabited

structure Stack where
  nodes : Array StackNode
  versions : Array Version
  deriving Inhabited

/-- Subtrees taken off the stack, and the version that is left below them. -/
structure Slice where
  subtrees : List Subtree
  version : Nat
  deriving Inhabited

/-- The most ways down from one node. -/
def maxLinks : Nat := 8

/-- The most ways that one walk down the stack follows. -/
def maxWalks : Nat := 64

/-- How much a subtree adds to the count of nodes on the stack. -/
def Subtree.countOnStack (tree : Subtree) : Nat :=
  tree.visibleDescendantCount + tree.facts.isVisible.toNat +
    (if tree.symbol == errorRepeatSymbol then 1 else 0)

/-- Whether two subtrees at the same place need not both be kept. -/
def Subtree.isEquivalent (left right : Subtree) : Bool :=
  left.symbol == right.symbol &&
    ((0 < left.errorCost && 0 < right.errorCost) ||
      (left.facts.padding.bytes == right.facts.padding.bytes &&
        left.facts.size.bytes == right.facts.size.bytes &&
        left.children.length == right.children.length && left.isExtra == right.isExtra))

namespace Stack

/-- A stack with one version, in the start state. -/
def initial : Stack where
  nodes := #[{ state := 1 }]
  versions := #[{ node := 0 }]

def version (stack : Stack) (index : Nat) : Version := stack.versions[index]?.getD default

def node (stack : Stack) (index : Nat) : StackNode := stack.nodes[index]?.getD default

def head (stack : Stack) (index : Nat) : StackNode := stack.node (stack.version index).node

def count (stack : Stack) : Nat := stack.versions.size

def state (stack : Stack) (index : Nat) : Nat := (stack.head index).state

def position (stack : Stack) (index : Nat) : Extent := (stack.head index).position

def isActive (stack : Stack) (index : Nat) : Bool :=
  (stack.version index).status matches .active

def isPaused (stack : Stack) (index : Nat) : Bool :=
  (stack.version index).status matches .paused _

def isHalted (stack : Stack) (index : Nat) : Bool :=
  (stack.version index).status matches .halted

def haltedCount (stack : Stack) : Nat :=
  (stack.versions.filter (·.status matches .halted)).size

def setVersion (stack : Stack) (index : Nat) (change : Version → Version) : Stack :=
  { stack with versions := stack.versions.modify index change }

/-- Pushes a subtree, or the mark of an error, and goes to a state. -/
def push (stack : Stack) (index : Nat) (subtree : Option Subtree) (pending : Bool)
    (state : Nat) : Stack :=
  let below := stack.version index |>.node
  let previous := stack.node below
  let link : StackLink := { node := below, subtree, pending }
  let fresh : StackNode := match subtree with
    | some tree => {
        state
        position := previous.position + tree.total
        links := #[link]
        errorCost := previous.errorCost + tree.errorCost
        nodeCount := previous.nodeCount + tree.countOnStack
        dynamicPrecedence := previous.dynamicPrecedence + tree.dynamicPrecedence }
    | none => { previous with state, links := #[link] }
  let nodeIndex := stack.nodes.size
  let stack := { stack with nodes := stack.nodes.push fresh }
  stack.setVersion index fun version => { version with
    node := nodeIndex
    nodeCountAtLastError :=
      if subtree.isNone then fresh.nodeCount else version.nodeCountAtLastError }

/-- The cost of the errors of a version. -/
def errorCost (stack : Stack) (index : Nat) : Nat :=
  let head := stack.head index
  let inNewError := head.state == 0 && match head.links[0]? with
    | some link => link.subtree.isNone
    | none => false
  head.errorCost +
    (if stack.isPaused index || inNewError then errorCosts.recovery else 0)

/-- The nodes that a version has pushed since its last error. -/
def nodesSinceError (stack : Stack) (index : Nat) : Nat :=
  (stack.head index).nodeCount - (stack.version index).nodeCountAtLastError

/-- Counts from here when a version has fewer nodes than at its last error. -/
def settleCount (stack : Stack) (index : Nat) : Stack :=
  let nodeCount := (stack.head index).nodeCount
  stack.setVersion index fun version =>
    { version with nodeCountAtLastError := min version.nodeCountAtLastError nodeCount }

def dynamicPrecedence (stack : Stack) (index : Nat) : Int := (stack.head index).dynamicPrecedence

/-- Whether a version has passed any text since its last error. -/
def hasAdvancedSinceError (stack : Stack) (index : Nat) : Bool := Id.run do
  let version := stack.version index
  let mut current := stack.node version.node
  if current.errorCost == 0 then
    return true
  for _ in [0:stack.nodes.size + 1] do
    let link := current.links[0]?.getD default
    match link.subtree with
    | some tree =>
      if 0 < tree.total.bytes then
        return true
      else if version.nodeCountAtLastError < current.nodeCount && tree.errorCost == 0 then
        current := stack.node link.node
      else
        return false
    | none => return false
  return false

/-- Adds a way down to a node, unless an equivalent one is there.  `fuel` bounds the depth to which
the nodes below are merged too. -/
def addLink : Nat → Stack → Nat → StackLink → Stack
  | 0, stack, _, _ => stack
  | fuel + 1, stack, index, link =>
    if link.node = index then stack
    else
      let self := stack.node index
      let target := stack.node link.node
      let precedenceOf (link : StackLink) : Int :=
        ((link.subtree).map (·.dynamicPrecedence)).getD 0
      let isEquivalent (known : StackLink) : Bool := match known.subtree, link.subtree with
        | some left, some right => left.isEquivalent right
        | none, none => true
        | _, _ => false
      let canMerge (known : StackLink) : Bool :=
        let below := stack.node known.node
        below.state == target.state && below.position.bytes == target.position.bytes &&
          below.errorCost == target.errorCost
      match self.links.findIdx? fun known =>
          isEquivalent known && (known.node == link.node || canMerge known) with
      | some position =>
        let known := self.links[position]?.getD default
        if known.node = link.node then
          if precedenceOf known < precedenceOf link then
            { stack with nodes := stack.nodes.set! index { self with
                links := self.links.set! position { known with subtree := link.subtree }
                dynamicPrecedence := target.dynamicPrecedence + precedenceOf link } }
          else stack
        else
          let merged := target.links.foldl
            (fun stack inner => addLink fuel stack known.node inner) stack
          let precedence := target.dynamicPrecedence + precedenceOf link
          { merged with nodes := merged.nodes.modify index fun self =>
              { self with dynamicPrecedence := max self.dynamicPrecedence precedence } }
      | none =>
        if self.links.size = maxLinks then stack
        else
          let nodeCount :=
            target.nodeCount + ((link.subtree).map (·.countOnStack)).getD 0
          { stack with nodes := stack.nodes.set! index { self with
              links := self.links.push link
              nodeCount := max self.nodeCount nodeCount
              dynamicPrecedence :=
                max self.dynamicPrecedence (target.dynamicPrecedence + precedenceOf link) } }

def removeVersion (stack : Stack) (index : Nat) : Stack :=
  { stack with versions := stack.versions.eraseIdxIfInBounds index }

/-- Whether two versions are in the same state at the same place at the same cost. -/
def canMerge (stack : Stack) (first second : Nat) : Bool :=
  let left := stack.head first
  let right := stack.head second
  stack.isActive first && stack.isActive second && left.state == right.state &&
    left.position.bytes == right.position.bytes && left.errorCost == right.errorCost

/-- Merges the second version into the first, if they can merge. -/
def merge? (stack : Stack) (first second : Nat) : Option Stack :=
  if stack.canMerge first second then
    let target := (stack.version first).node
    let merged := (stack.head second).links.foldl
      (fun stack link => addLink (stack.nodes.size + 1) stack target link) stack
    let merged :=
      if (merged.node target).state == 0 then
        merged.setVersion first
          ({ · with nodeCountAtLastError := (merged.node target).nodeCount })
      else merged
    some (merged.removeVersion second)
  else none

/-- Puts one version in the place of another. -/
def renumber (stack : Stack) (source target : Nat) : Stack :=
  if source = target then stack
  else
    let moved := stack.version source
    let replaced := stack.version target
    let moved :=
      if moved.summary.isNone then { moved with summary := replaced.summary } else moved
    (stack.setVersion target fun _ => moved).removeVersion source

def swapVersions (stack : Stack) (first second : Nat) : Stack :=
  { stack with versions := stack.versions.swapIfInBounds first second }

/-- Copies a version to the end. -/
def copyVersion (stack : Stack) (index : Nat) : Stack × Nat :=
  ({ stack with versions := stack.versions.push { stack.version index with summary := none } },
    stack.count)

def halt (stack : Stack) (index : Nat) : Stack :=
  stack.setVersion index ({ · with status := .halted })

/-- Stops a version at a token that is not valid. -/
def pause (stack : Stack) (index : Nat) (lookahead : Subtree) : Stack :=
  let nodeCount := (stack.head index).nodeCount
  stack.setVersion index
    ({ · with status := .paused lookahead, nodeCountAtLastError := nodeCount })

/-- A way down the stack: where it is, and what it passed, the nearest last. -/
structure Walk where
  node : Nat
  subtrees : List Subtree := []
  /-- Subtrees passed that are no extras. -/
  count : Nat := 0
  pending : Bool := true
  deriving Inhabited

/-- Follows a link. -/
def Walk.follow (walk : Walk) (link : StackLink) : Walk :=
  match link.subtree with
  | some tree =>
    { node := link.node
      subtrees := tree :: walk.subtrees
      count := if tree.isExtra then walk.count else walk.count + 1
      pending := walk.pending && (tree.isExtra || link.pending) }
  | none => { walk with node := link.node, count := walk.count + 1, pending := false }

/-- What to do at a place of a walk. -/
structure WalkChoice where
  take : Bool := false
  stop : Bool := false

/-- Adds what a walk passed to the slices; walks that end at one node share its version. -/
def addSlice (stack : Stack) (slices : Array Slice) (original : Nat) (walk : Walk) :
    Stack × Array Slice :=
  let sameNode := (List.range slices.size).filter fun position =>
    match slices[position]? with
    | some slice => (stack.version slice.version).node == walk.node
    | none => false
  match sameNode.getLast? with
  | some index =>
    let known := slices[index]?.getD default
    (stack, slices.extract 0 (index + 1) ++ #[⟨walk.subtrees, known.version⟩] ++
      slices.extract (index + 1) slices.size)
  | none =>
    let fresh : Version := {
      node := walk.node
      nodeCountAtLastError := (stack.version original).nodeCountAtLastError }
    ({ stack with versions := stack.versions.push fresh },
      slices.push ⟨walk.subtrees, stack.count⟩)

/-- Walks down from a version along all links, all walks in step. -/
def walkDown (stack : Stack) (index : Nat) (init : σ)
    (choose : σ → Stack → Walk → σ × WalkChoice) : Stack × Array Slice × σ := Id.run do
  let mut stack := stack
  let mut slices := #[]
  let mut state := init
  let mut walks : Array Walk := #[{ node := (stack.version index).node }]
  for _ in [0:stack.nodes.size + 1] do
    if walks.isEmpty then
      break
    let mut kept : Array Walk := #[]
    let mut branched : Array Walk := #[]
    let size := walks.size
    let mut dropped := 0
    for walkIndex in [0:size] do
      let walk := walks[walkIndex]?.getD default
      let links := (stack.node walk.node).links
      let (next, choice) := choose state stack walk
      state := next
      if choice.take then
        let (added, found) := addSlice stack slices index walk
        stack := added
        slices := found
      if choice.stop || links.isEmpty then
        dropped := dropped + 1
      else
        for linkIndex in [1:links.size] do
          if size - dropped + branched.size < maxWalks then
            branched := branched.push (walk.follow (links[linkIndex]?.getD default))
        kept := kept.push (walk.follow (links[0]?.getD default))
    walks := kept ++ branched
  return (stack, slices, state)

/-- Takes a number of subtrees, extras aside, off a version. -/
def popCount (stack : Stack) (index count : Nat) : Stack × Array Slice :=
  let (stack, slices, _) := stack.walkDown index () fun _ _ walk =>
    ((), if walk.count = count then ⟨true, true⟩ else {})
  (stack, slices)

/-- Takes everything off a version. -/
def popAll (stack : Stack) (index : Nat) : Stack × Array Slice :=
  let (stack, slices, _) := stack.walkDown index () fun _ stack walk =>
    ((), ⟨(stack.node walk.node).links.isEmpty, false⟩)
  (stack, slices)

/-- Takes a subtree that was reused whole off a version, if it is on top. -/
def popPending (stack : Stack) (index : Nat) : Stack × Array Slice :=
  let (stack, slices, _) := stack.walkDown index () fun _ _ walk =>
    ((), if 1 ≤ walk.count then ⟨walk.pending, true⟩ else {})
  match slices[0]? with
  | some first =>
    (stack.renumber first.version index, slices.set! 0 { first with version := index })
  | none => (stack, slices)

/-- Takes an error off a version, if it is on top. -/
def popError (stack : Stack) (index : Nat) : Stack × List Subtree :=
  let onTop := (stack.head index).links.any fun link =>
    ((link.subtree).map (·.isError)).getD false
  if onTop then
    let (popped, slices, _) := stack.walkDown index false fun found _ walk =>
      match walk.subtrees with
      | [] => (found, {})
      | first :: _ =>
        if !found && first.isError then (true, ⟨true, true⟩) else (found, ⟨false, true⟩)
    match slices[0]? with
    | some slice => (popped.renumber slice.version index, slice.subtrees)
    | none => (popped, [])
  else (stack, [])

/-- Records the states below a version, down to a depth. -/
def recordSummary (stack : Stack) (index maxDepth : Nat) : Stack :=
  let (_, _, summary) := stack.walkDown index (#[] : Array SummaryEntry)
    fun summary stack walk =>
      let node := stack.node walk.node
      if maxDepth < walk.count then (summary, ⟨false, true⟩)
      else
        let known := (summary.toList.reverse.takeWhile (walk.count ≤ ·.depth)).any fun entry =>
          entry.depth == walk.count && entry.state == node.state
        (if known then summary else summary.push ⟨node.position, walk.count, node.state⟩, {})
  stack.setVersion index ({ · with summary := some summary })

end Stack

end SyntaxExplorer.Parsing
