import SyntaxExplorer.Engine
import SyntaxExplorer.Query.Compiled
/-!
Matching queries against trees.  The nodes are visited in the order of the walk, and all attempts at
patterns are carried along; where a pattern can go on in several ways, the attempt is split.  Of attempts
at one pattern from one node, those that capture less than another are dropped.
-/

namespace SyntaxExplorer.Query

/-- A captured node, with the number of its parent. -/
structure Captured where
  capture : Nat
  node : Node
  parent : Option NodeId
  deriving Inhabited

/-- An attempt at a pattern. -/
structure Attempt where
  pattern : Nat
  step : Nat
  /-- The depth at which the pattern starts. -/
  depth : Nat
  captured : List Captured := []
  /-- Whether only the next node will do. -/
  isHasty : Bool := true
  /-- Whether the node above is still to be found. -/
  needsParent : Bool := false
  /-- Whether another attempt may still capture more. -/
  hasRival : Bool := false
  deriving Inhabited

/-- How many attempts hold captures, and whether there were more at some time than allowed. -/
structure Holdings where
  limit : Nat
  held : Nat := 0
  exceeded : Bool := false
  deriving Inhabited

abbrev HoldM := StateM Holdings

namespace HoldM

/-- Takes a place for the captures of one more attempt. -/
def acquire : HoldM Unit := modify fun holdings =>
  if holdings.held < holdings.limit then { holdings with held := holdings.held + 1 }
  else { holdings with exceeded := true }

/-- Gives back the place of an attempt that is over. -/
def release (attempt : Attempt) : HoldM Unit := modify fun holdings =>
  if attempt.captured.isEmpty then holdings else { holdings with held := holdings.held - 1 }

end HoldM

/-- Where a visit stands: at a node, with the nodes above it, the nearest first. -/
structure Standing where
  node : Node
  above : List Node
  deriving Inhabited

namespace Standing

def depth (standing : Standing) : Nat := standing.above.length

def parent? (standing : Standing) : Option NodeId := standing.above.head?.map Node.id

/-- The nodes above the node that is next above. -/
def up? (standing : Standing) : Option Standing :=
  match standing.above with
  | [] => none
  | parent :: above => some ⟨parent, above⟩

/-- Whether a node counts as part of the text: not if it is in a node that ends where the text
starts. -/
def isInText (standing : Standing) : Bool :=
  standing.above.head?.all fun parent =>
    0 < parent.facts.stop.bytes && Point.origin.isBefore parent.facts.stop.point

/-- Whether the node at hand is in skipped text. -/
def isInError (standing : Standing) : Bool := standing.above.head?.any (·.facts.isError)

end Standing

/-- Whether a node is of the kind that a step asks for. -/
def Step.acceptsKind (step : Step) (facts : NodeFacts) : Bool :=
  match step.kind with
  | some kind => facts.kindId == kind && (!step.isMissing || facts.isMissing)
  | none =>
    if step.isMissing then facts.isMissing else !facts.isError && (facts.isNamed || !step.isNamed)

/-- Whether a node is what a step asks for. -/
def Step.accepts (step : Step) (node : Node) : Bool :=
  step.acceptsKind node.facts &&
    !(step.isLastChild && node.facts.later.named) &&
    step.supertype.all node.facts.supertypes.contains &&
    step.field.all (node.facts.queryField == some ·) &&
    step.absentFields.all fun field =>
      node.children.all fun child => child.facts.queryField != some field

namespace Attempt

/-- Whether a later sibling of a node might be found instead of it. -/
def mayFindLater (attempt : Attempt) (step : Step) (facts : NodeFacts) : Bool :=
  facts.later.any && !(step.isImmediate && facts.isNamed) && !attempt.isHasty &&
    !(step.field.any (facts.queryField == some ·) && !facts.fieldMayRepeat)

/-- Whether a step may be found without what is below it. -/
def mayFailBelow (steps : Steps) (index : Nat) : Bool :=
  let step := steps.step index
  let next := steps.step (index + 1)
  next.isBelow step.depth && (!next.isCertain || step.kind.isNone)

/-- Captures a node with a step. -/
def capture (standing : Standing) (step : Step) (attempt : Attempt) : HoldM Attempt := do
  if step.captures.isEmpty then
    return attempt
  if attempt.captured.isEmpty then
    HoldM.acquire
  let captured := step.captures.map fun number => ⟨number, standing.node, standing.parent?⟩
  return { attempt with captured := attempt.captured ++ captured }

/-- A second attempt that goes on from the same state. -/
def split (attempt : Attempt) : HoldM Attempt := do
  unless attempt.captured.isEmpty do
    HoldM.acquire
  return attempt

/-- The attempts that the alternatives of a step make of one. -/
def branch (steps : Steps) : Nat → Attempt → HoldM (List Attempt)
  | 0, attempt => return [attempt]
  | fuel + 1, attempt => do
    let step := steps.step attempt.step
    match step.alternative with
    | none => return [attempt]
    | some next =>
      if step.isDeadEnd then branch steps fuel { attempt with step := next }
      else
        let onward := if step.isPassThrough then { attempt with step := attempt.step + 1 } else attempt
        let other ← onward.split
        let other := { other with
          step := next, isHasty := other.isHasty || step.alternativeIsImmediate }
        let first ← if step.isPassThrough then branch steps fuel onward else pure [onward]
        return first ++ (← branch steps fuel other)

/-- The step that a pattern skipped when it started below it. -/
def skippedStep (steps : Steps) : Nat → Step
  | 0 => steps.step 0
  | index + 1 =>
    let step := steps.step index
    if step.isDeadEnd || step.isPassThrough || 0 < step.depth then skippedStep steps index else step

/-- Finds the node above, where an attempt needs it; none if there is no node above. -/
def findParent (steps : Steps) (standing : Standing) (attempt : Attempt) :
    HoldM (Option Attempt) := do
  if attempt.needsParent then
    match standing.up? with
    | none => return none
    | some above =>
      return some (← capture above (skippedStep steps attempt.step)
        { attempt with needsParent := false })
  else return some attempt

/-- What becomes of an attempt at a node. -/
def visit (steps : Steps) (standing : Standing) (attempt : Attempt) : HoldM (List Attempt) := do
  let attempt := { attempt with hasRival := false }
  let step := steps.step attempt.step
  if step.isEnd || attempt.depth + step.depth ≠ standing.depth then
    return [attempt]
  let mayFindLater := attempt.mayFindLater step standing.node.facts
  if !step.accepts standing.node then
    if mayFindLater then
      return [attempt]
    HoldM.release attempt
    return []
  let others ← if mayFindLater && (step.containsCaptures || mayFailBelow steps attempt.step) then
      pure [← attempt.split]
    else pure []
  match ← attempt.findParent steps standing with
  | none =>
    HoldM.release attempt
    return others
  | some attempt =>
    let attempt ← attempt.capture standing step
    let next := steps.step (attempt.step + 1)
    let isHasty := step.kind.isNone && !step.isNamed && next.isImmediate
    return (← branch steps (4 * steps.size) { attempt with step := attempt.step + 1, isHasty }) ++
      others

/-- The order of captured nodes: by start, the longer first. -/
def compareNodes (left right : Node) : Ordering :=
  if left.id = right.id then .eq
  else (compare left.facts.start.bytes right.facts.start.bytes).then
    (compare right.facts.stop.bytes left.facts.stop.bytes)

/-- Whether each of two lists of captures holds the other.  `fuel` bounds their lengths together. -/
def compareCaptured : Nat → List Captured → List Captured → Bool × Bool
  | _, [], [] => (true, true)
  | _, [], _ :: _ => (false, true)
  | _, _ :: _, [] => (true, false)
  | 0, _, _ => (false, false)
  | fuel + 1, left :: lefts, right :: rights =>
    if left.node.id = right.node.id && left.capture = right.capture then
      compareCaptured fuel lefts rights
    else match compareNodes left.node right.node with
      | .lt =>
        let (holdsRight, _) := compareCaptured fuel lefts (right :: rights)
        (holdsRight, false)
      | .gt =>
        let (_, heldByRight) := compareCaptured fuel (left :: lefts) rights
        (false, heldByRight)
      | .eq => (false, false)

/-- Compares an attempt with those after it at the same pattern from the same depth.  Of two at the same
step, one that captures no more than the other is dropped; of two at different steps, one that captures
less is told of its rival. -/
def contend (attempt : Attempt) : List Attempt → HoldM (Option Attempt × List Attempt)
  | [] => return (some attempt, [])
  | other :: rest => do
    if other.depth ≠ attempt.depth || other.pattern ≠ attempt.pattern then
      return (some attempt, other :: rest)
    let (holdsOther, isHeld) := compareCaptured
      (attempt.captured.length + other.captured.length) attempt.captured other.captured
    let sameStep := attempt.step == other.step
    if holdsOther && sameStep then
      HoldM.release other
      contend attempt rest
    else
      let other := if holdsOther then { other with hasRival := true } else other
      if isHeld && sameStep then
        HoldM.release attempt
        return (none, other :: rest)
      let attempt := if isHeld then { attempt with hasRival := true } else attempt
      let (attempt, rest) ← contend attempt rest
      return (attempt, other :: rest)

/-- Lets all attempts contend.  Gives those that go on and those that are finished, of which none has a
rival.  `fuel` bounds the number of attempts. -/
def settle (steps : Steps) : Nat → List Attempt → HoldM (List Attempt × List Attempt)
  | 0, attempts => return (attempts, [])
  | _, [] => return ([], [])
  | fuel + 1, attempt :: rest => do
    let (attempt, rest) ← contend attempt rest
    let (going, finished) ← settle steps fuel rest
    match attempt with
    | none => return (going, finished)
    | some attempt =>
      if (steps.step attempt.step).isEnd && !attempt.hasRival then
        return (going, attempt :: finished)
      else return (attempt :: going, finished)

/-- Adds an attempt in its order: by depth, then by pattern, before others of its own pattern.  One that
is there already is not added. -/
def insert (new : Attempt) (attempts : List Attempt) : List Attempt :=
  go [] attempts.reverse
where
  /-- `after` are those behind the new one, `before` those that may be, the last first. -/
  go (after : List Attempt) : List Attempt → List Attempt
    | [] => new :: after
    | last :: before =>
      if last.depth < new.depth || (last.depth == new.depth && last.pattern < new.pattern) then
        (last :: before).reverse ++ new :: after
      else if last.depth == new.depth && last.pattern == new.pattern && last.step == new.step then
        attempts
      else go (last :: after) before

end Attempt

/-- A search on its way: the attempts in progress and those that succeeded. -/
structure Search where
  attempts : List Attempt := []
  matched : List Attempt := []
  holdings : Holdings
  deriving Inhabited

namespace Search

/-- Adds finished attempts to those that succeeded; their captures are handed out at once. -/
def finish (search : Search) (finished : List Attempt) : Search :=
  let (_, holdings) := (finished.forM HoldM.release).run search.holdings
  { search with matched := search.matched ++ finished, holdings }

/-- Whether a pattern may start at a node. -/
def mayStart (query : Query) (standing : Standing) (entry : Entry) : Bool :=
  let step := query.steps.step entry.step
  standing.isInText && (entry.isRooted || !standing.isInError) &&
    step.depth ≤ standing.depth &&
    step.field.all (standing.node.facts.queryField == some ·) &&
    (step.kind.isSome || step.supertype.isNone || !standing.node.facts.supertypes.isEmpty)

/-- The entries of the patterns that start with a node of a kind. -/
def entriesOf (query : Query) (facts : NodeFacts) : List Entry :=
  (if facts.isError then [] else query.anyKind) ++
    query.ofKind.filter fun entry => (query.steps.step entry.step).kind == some facts.kindId

/-- Comes to a node. -/
def enter (query : Query) (standing : Standing) (search : Search) : Search :=
  let entries := (entriesOf query standing.node.facts).filter (mayStart query standing)
  let attempts := entries.foldl (fun attempts entry =>
    let step := query.steps.step entry.step
    Attempt.insert {
      pattern := entry.pattern, step := entry.step, depth := standing.depth - step.depth
      needsParent := step.depth == 1 } attempts) search.attempts
  let ((going, finished), holdings) := (do
    let visited ← attempts.mapM (Attempt.visit query.steps standing)
    let attempts := visited.flatten
    Attempt.settle query.steps attempts.length attempts : HoldM _).run search.holdings
  { search with attempts := going, holdings }.finish finished

/-- Leaves a node at a depth.  What was to be found in it has failed; what only waited for more is
finished. -/
def leave (query : Query) (depth : Nat) (search : Search) : Search :=
  let isOver (attempt : Attempt) : Bool :=
    (query.steps.step attempt.step).isEnd && (depth < attempt.depth || depth == 0)
  let isLost (attempt : Attempt) : Bool :=
    let step := query.steps.step attempt.step
    !step.isEnd && depth < attempt.depth + step.depth
  let (finished, others) := search.attempts.partition isOver
  let (lost, going) := others.partition isLost
  let (_, holdings) := (lost.forM HoldM.release).run search.holdings
  { search with attempts := going, holdings }.finish finished

mutual

/-- Visits a node and all below it. -/
def visit (query : Query) (above : List Node) : Node → Search → Search
  | .mk facts children, search =>
    if search.holdings.exceeded then search
    else
      let node := Node.mk facts children
      leave query above.length <|
        visitAll query (node :: above) children (enter query ⟨node, above⟩ search)

def visitAll (query : Query) (above : List Node) : List Node → Search → Search
  | [], search => search
  | first :: rest, search => visitAll query above rest (visit query above first search)

end

end Search

/-- The texts of the nodes that a capture took. -/
def textsOf (source : String) (attempt : Attempt) (capture : Nat) : List String :=
  (attempt.captured.filter (·.capture == capture)).map fun captured =>
    let facts := captured.node.facts
    (Text.slice? source facts.start.bytes facts.stop.bytes).getD ""

/-- Whether a match fulfils the conditions of its pattern. -/
def fulfills (query : Query) (source : String) (attempt : Attempt) : Bool :=
  (query.predicates[attempt.pattern]?.getD []).all (·.holds (textsOf source attempt))

/-- A captured node under one of the names of a query.  Each number that a query captures under has a
name. -/
def Captured.named? (captured : Captured) (names : Nat) : Option (CapturedNode names) :=
  if known : captured.capture < names then
    some ⟨⟨captured.capture, known⟩, captured.node, captured.parent⟩
  else none

/-- The matches of a query below a root.  The limit is on the attempts that hold captures at once; where
there were more, the search stopped. -/
def search (query : Query) (limit : Nat) (root : Node) (source : String) :
    Matching query.captures.size :=
  let last := Search.visit query [] root { holdings := { limit } }
  { found := (last.matched.filter (query.fulfills source)).map fun attempt =>
      ⟨attempt.pattern, attempt.captured.filterMap (·.named? query.captures.size)⟩
    exceeded := last.holdings.exceeded }

end Query

end SyntaxExplorer
