import SyntaxExplorer.Query.ChildGraph
import SyntaxExplorer.Query.Step
/-!
Which patterns are possible.  All ways to read the children of a node are followed beside the steps of a
pattern: a pattern that none of them satisfies is refused, and a step at which some of them end is not
certain to be found.
-/

namespace SyntaxExplorer.Query

open Parsing

/-- A symbol whose children are being followed. -/
structure Level where
  symbol : Nat
  state : Nat
  /-- How many children are passed. -/
  count : Nat := 0
  /-- The field that all children fill, if the symbol itself fills one. -/
  field : Option Nat := none
  isDone : Bool := false
  deriving Repr, Inhabited

/-- How far a pattern and the children are followed.  Hidden symbols nest, the outermost first. -/
structure Follow where
  step : Nat
  levels : List Level
  deriving Repr, Inhabited

namespace Follow

/-- The most symbols that may nest. -/
def maxLevels : Nat := 8

def compareCounts : List Level → List Level → Ordering
  | [], [] => .eq
  | [], _ :: _ => .gt
  | _ :: _, [] => .lt
  | left :: lefts, right :: rights =>
    (compare left.count right.count).then (compareCounts lefts rights)

/-- Compares progress. -/
def compareProgress (left right : Follow) : Ordering :=
  (compareCounts left.levels right.levels).then (compare left.step right.step)

def compareSymbols : List Level → List Level → Ordering
  | left :: lefts, right :: rights =>
    (compare left.symbol right.symbol).then <|
      (compare left.state right.state).then <|
        (compare (left.field.getD 0) (right.field.getD 0)).then (compareSymbols lefts rights)
  | _, _ => .eq

/-- Compares progress first, then all else that counts. -/
def compare (left right : Follow) : Ordering :=
  (compareProgress left right).then (compareSymbols left.levels right.levels)

/-- How many of the symbols nest within themselves. -/
def recursionDepth (follow : Follow) : Nat :=
  count [] (follow.levels.map (·.symbol))
where
  count (outer : List Nat) : List Nat → Nat
    | [] => 0
    | symbol :: rest => (outer.contains symbol).toNat + count (symbol :: outer) rest

/-- The place of the first item that does not come before another, in an ordered array. -/
def lowerBound (items : Array Follow) (item : Follow) : Nat := search items.size 0 items.size
where
  search : Nat → Nat → Nat → Nat
    | 0, low, _ => low
    | fuel + 1, low, high =>
      if high ≤ low then low
      else
        let middle := (low + high) / 2
        if compare (items[middle]?.getD default) item == .lt then search fuel (middle + 1) high
        else search fuel low middle

/-- Adds an item to an ordered array, unless it is there. -/
def insert (items : Array Follow) (item : Follow) : Array Follow :=
  let index := lowerBound items item
  if ((items[index]?).map (compare · item == .eq)).getD false then items
  else items.insertIdxIfInBounds index item

end Follow

/-- What following a pattern has shown so far. -/
structure Survey where
  /-- What is to be followed next. -/
  next : Array Follow := #[]
  /-- What nests too deep for now. -/
  deeper : Array Follow := #[]
  /-- The steps at which children ended before the pattern did, in order. -/
  ends : List Nat := []
  isPossible : Bool := false
  /-- Whether something nests too deep to follow. -/
  isHopeless : Bool := false
  deriving Inhabited

/-- What there is to follow patterns with. -/
structure Guide where
  language : Language
  tables : ChildTables
  steps : Steps
  /-- The graph of the symbol that is looked into; hidden ones are in the tables. -/
  outermost : Nat × ChildGraph

namespace Guide

def graph? (guide : Guide) (symbol : Nat) : Option ChildGraph :=
  if symbol = guide.outermost.1 then some guide.outermost.2 else guide.tables.hidden[symbol]?

/-- The kind under which a child appears; zero if it is hidden. -/
def shownKind (guide : Guide) (symbol shape index : Nat) : Nat :=
  let shown := guide.language.aliasAt shape index
  if shown ≠ 0 then shown
  else if (guide.language.symbolInfo symbol).isVisible then guide.language.publicSymbol symbol
  else 0

/-- The field that a child fills. -/
def fieldOf (guide : Guide) (outer : Option Nat) (shape index : Nat) : Option Nat :=
  outer <|> ((guide.language.shape shape).fields.find? fun field =>
    !field.inherited && field.child == index).map (·.field)

/-- Whether a step may find a node of a kind in a field, below some symbols. -/
def canFind (guide : Guide) (step : Step) (kind : Nat) (field : Option Nat) (levels : List Level) :
    Bool :=
  if step.kind == some errorSymbol then true
  else if kind = 0 then false
  else
    (match step.kind with
      | none => !step.isNamed || (guide.language.symbolInfo kind).isNamed
      | some wanted => wanted == kind) &&
    (step.field.isNone || step.field == field) &&
    (match step.supertype with
      | none => true
      | some supertype => levels.any (·.symbol == supertype))

/-- The next step that is not below a step. -/
def stepAfter (guide : Guide) (index : Nat) : Nat :=
  index + 1 + (guide.steps.below index).length

/-- Notes where a follow stands at a step, and at the alternatives of the step if the step before it
was found.  `depth` is that of the step before. -/
def settle (guide : Guide) (depth : Nat) (found : Bool) (levels : List Level) :
    Nat → Nat → Survey → Survey
  | 0, _, survey => survey
  | fuel + 1, index, survey =>
    let step := guide.steps.step index
    if step.isPassThrough then guide.settle depth found levels fuel (index + 1) survey
    else
      let survey :=
        if step.isDeadEnd then survey
        else if step.isEnd || step.depth ≠ depth then { survey with isPossible := true }
        else if levels.isEmpty then
          if survey.ends.contains index then survey
          else { survey with
            ends := survey.ends.takeWhile (· < index) ++ index ::
              survey.ends.dropWhile (· < index) }
        else { survey with next := Follow.insert survey.next ⟨index, levels⟩ }
      match step.alternative with
      | some next =>
        if found && index < next then guide.settle depth found levels fuel next survey else survey
      | none => survey

/-- Leaves the symbols that are complete. -/
def leave (levels : List Level) : List Level := (levels.reverse.dropWhile (·.isDone)).reverse

/-- Follows one child: over an edge, to a place. -/
def followChild (guide : Guide) (limit : Nat) (follow : Follow) (outer : List Level) (level : Level)
    (edge : ParseEdge) (place : ChildPlace) (survey : Survey) : Survey :=
  let step := guide.steps.step follow.step
  let kind := guide.shownKind edge.symbol place.shape level.count
  let field := guide.fieldOf level.field place.shape level.count
  let passed := { level with
    state := edge.target, count := place.count, isDone := level.isDone || place.isLast }
  let found := guide.canFind step kind field follow.levels
  let goOn (survey : Survey) : Survey :=
    if found then
      guide.settle step.depth true (leave (outer ++ [passed])) (guide.steps.size + 1)
        (guide.stepAfter follow.step) survey
    else if edge.target = level.state then survey
    else
      guide.settle step.depth false (leave (outer ++ [passed])) (guide.steps.size + 1)
        follow.step survey
  if step.kind == some errorSymbol || kind ≠ 0 || edge.symbol < guide.language.tokenCount then
    goOn survey
  else if !passed.isDone && Follow.maxLevels ≤ follow.levels.length + 1 then
    { survey with isHopeless := true }
  else
    let inner : Level := { symbol := edge.symbol, state := level.state, field }
    let levels := if passed.isDone then outer ++ [inner] else outer ++ [passed, inner]
    let entered : Follow := ⟨follow.step, levels⟩
    if limit < entered.recursionDepth then
      { survey with deeper := Follow.insert survey.deeper entered }
    else if edge.target = level.state then survey
    else guide.settle step.depth false levels (guide.steps.size + 1) follow.step survey

/-- Follows every child that may come next. -/
def followAll (guide : Guide) (limit : Nat) (follow : Follow) (survey : Survey) : Survey :=
  match follow.levels.getLast? with
  | none => survey
  | some level =>
    match guide.graph? level.symbol with
    | none => survey
    | some graph =>
      let outer := follow.levels.dropLast
      (guide.tables.edges[level.state]?.getD #[]).foldl (fun survey edge =>
        let count := if edge.isExtra then level.count else level.count + 1
        (graph.places? edge.target count).foldl (fun survey place =>
          guide.followChild limit follow outer level edge place survey) survey) survey

/-- Takes those that are least far one child further.  Those that are further wait. -/
def advance (guide : Guide) (limit : Nat) (current : Array Follow) (survey : Survey) : Survey :=
  Id.run do
    let mut survey := { survey with next := #[] }
    for index in [0:current.size] do
      let follow := current[index]?.getD default
      let progress := match survey.next.back? with
        | some last => Follow.compareProgress follow last
        | none => .lt
      match progress with
      | .lt => survey := guide.followAll limit follow survey
      | .eq => survey := { survey with next := Follow.insert survey.next follow }
      | .gt =>
        survey := { survey with next := survey.next ++ current.extract index current.size }
        break
    return survey

/-- The most rounds in which patterns are followed. -/
def maxRounds : Nat := 256

/-- Follows a pattern until nothing new is found.  Nesting is allowed for as long as it shows more ends;
too many rounds are hopeless. -/
def explore (guide : Guide) : Nat → Nat → Nat → Array Follow → Survey → Survey
  | 0, _, _, _, survey => { survey with isHopeless := true }
  | fuel + 1, limit, knownEnds, current, survey =>
    if survey.isHopeless then survey
    else if current.isEmpty then
      if !survey.deeper.isEmpty && knownEnds < survey.ends.length then
        guide.explore fuel (limit + 1) survey.ends.length survey.deeper
          { survey with deeper := #[] }
      else survey
    else
      let survey := guide.advance limit current survey
      guide.explore fuel limit knownEnds survey.next survey

end Guide

namespace Steps

/-- The captures and the certainty of steps, as far as they follow from the steps alone. -/
def prepare (steps : Steps) : Steps :=
  (List.range steps.size).foldl (fun (result : Steps) index =>
    let step := steps.step index
    if step.isEnd then result.modify index ({ · with isCertain := true })
    else
      let below := steps.below index
      let captures := (index :: below).any fun other => !(steps.step other).captures.isEmpty
      let result : Steps := result.modify index ({ · with containsCaptures := captures })
      if step.kind.isSome then result.changeAll below ({ · with isCertain := true }) else result)
    steps

/-- The offset of the text of a step, or of the first after it that has one. -/
def placeOf (places : Array (Nat × Nat)) (index : Nat) : Option Nat :=
  (places.find? fun place => index ≤ place.1).map (·.2)

/-- Fails if a child of a supertype is none of the kinds that the supertype stands for. -/
def checkSubtypes (steps : Steps) (language : Language) (places : Array (Nat × Nat)) :
    Except QueryError Unit :=
  (List.range steps.size).forM fun index => do
    let step := steps.step index
    match step.kind, step.supertype.bind language.subtypesOf? with
    | none, some kinds =>
      for below in steps.below index do
        let child := steps.step below
        if child.depth = step.depth + 1 && (child.kind.map (!kinds.contains ·)).getD false then
          if let some place := placeOf places below then
            throw ⟨.impossiblePattern, place, ""⟩
    | _, _ => return

/-- Looks into the children of one step. -/
def checkChildren (steps : Steps) (language : Language) (tables : ChildTables)
    (places : Array (Nat × Nat)) (parent : Nat) : Except QueryError Steps := do
  let last := (places.back?.map (·.2)).getD 0
  let fault (index : Nat) : QueryError :=
    ⟨.impossiblePattern, (placeOf places index).getD last, ""⟩
  let step := steps.step parent
  let kind := step.kind.getD 0
  if kind = errorSymbol then
    return steps
  match tables.lookup kind with
  | none => throw (fault (parent + 1))
  | some graph =>
    let guide : Guide := { language, tables, steps, outermost := (kind, graph) }
    let start := (graph.starts.map fun state =>
      ⟨parent + 1, [{ symbol := kind, state }]⟩ : List Follow).toArray
    let survey := guide.explore Guide.maxRounds 0 0 start {}
    let uncertain (index : Nat) (steps : Steps) : Steps :=
      steps.modify index fun step => if step.isDeadEnd then step else { step with isCertain := false }
    if survey.isHopeless then
      return (steps.below parent).foldl (fun steps index => uncertain index steps) steps
    unless survey.isPossible do
      throw (fault (survey.ends.getLast?.getD parent))
    return (survey.ends.filter fun index => (steps.step index).isBelow step.depth).foldl
      (fun steps index => uncertain index steps) steps

/-- Refuses patterns that are impossible in a language, and notes which steps are certain. -/
def check (steps : Steps) (language : Language) (tables : ChildTables)
    (places : Array (Nat × Nat)) : Except QueryError Steps := do
  let steps := steps.prepare
  steps.checkSubtypes language places
  let parents := (List.range steps.size).filter fun index =>
    (steps.step index).kind.isSome && !(steps.step index).isEnd && !(steps.below index).isEmpty
  parents.foldlM (fun steps parent => steps.checkChildren language tables places parent) steps

end Steps

end SyntaxExplorer.Query
