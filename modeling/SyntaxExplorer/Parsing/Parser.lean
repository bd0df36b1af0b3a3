import SyntaxExplorer.Parsing.Stack
import SyntaxExplorer.Parsing.Token
/-!
The parser.  Each version of the stack takes the actions of its state on the next token; versions that
do clearly worse than others are dropped.  When no version can go on, the parser looks for a state
further down in which the token is valid, tries a missing token, and skips text.  What of an earlier
tree an edit has not touched is used again.
-/

namespace SyntaxExplorer.Parsing

open Table

/-- The most versions kept between tokens. -/
def maxVersions : Nat := 6

/-- How many versions more may exist while a token is processed. -/
def versionOverflow : Nat := 4

/-- How far down a state to recover to is looked for. -/
def maxSummaryDepth : Nat := 16

/-- The difference in cost beyond which a version is dropped. -/
def maxCostDifference : Nat := 18 * errorCosts.skippedTree

/-- A subtree of an earlier tree, with its place. -/
structure ReusableEntry where
  tree : Subtree
  /-- The subtrees that follow it under its parent. -/
  following : List Subtree
  offset : Nat
  deriving Inhabited

/-- The state of a parse. -/
structure Run where
  stack : Stack := .initial
  /-- The last token read, with its position. -/
  cache : Option (Nat × Subtree) := none
  finished : Option Subtree := none
  accepts : Nat := 0
  /-- The subtree of the earlier tree that comes next, and those that hold it. -/
  reusable : List ReusableEntry := []
  /-- Whether any character was read. -/
  advanced : Bool := false
  deriving Inhabited

abbrev ParseM := StateM Run

def getStack : ParseM Stack := return (← get).stack

def modifyStack (change : Stack → Stack) : ParseM Unit :=
  modify fun run => { run with stack := change run.stack }

/-! Comparing versions. -/

/-- What a version's worth is judged by. -/
structure ErrorStatus where
  cost : Nat
  nodeCount : Nat
  dynamicPrecedence : Int
  isInError : Bool

inductive Preference
  | takeLeft
  | preferLeft
  | none
  | preferRight
  | takeRight
  deriving BEq

def Stack.status (stack : Stack) (index : Nat) : ErrorStatus :=
  let isPaused := stack.isPaused index
  { cost := stack.errorCost index + (if isPaused then errorCosts.skippedTree else 0)
    nodeCount := stack.nodesSinceError index
    dynamicPrecedence := stack.dynamicPrecedence index
    isInError := isPaused || stack.state index == 0 }

def ErrorStatus.compare (a b : ErrorStatus) : Preference :=
  if !a.isInError && b.isInError then
    if a.cost < b.cost then .takeLeft else .preferLeft
  else if a.isInError && !b.isInError then
    if b.cost < a.cost then .takeRight else .preferRight
  else if a.cost < b.cost then
    if maxCostDifference < (b.cost - a.cost) * (1 + a.nodeCount) then .takeLeft else .preferLeft
  else if b.cost < a.cost then
    if maxCostDifference < (a.cost - b.cost) * (1 + b.nodeCount) then .takeRight else .preferRight
  else if b.dynamicPrecedence < a.dynamicPrecedence then .preferLeft
  else if a.dynamicPrecedence < b.dynamicPrecedence then .preferRight
  else .none

/-- Whether some other version makes one of this cost pointless. -/
def betterVersionExists (index : Nat) (isInError : Bool) (cost : Nat) : ParseM Bool := do
  let run ← get
  if let some tree := run.finished then
    if tree.errorCost ≤ cost then
      return true
  modifyStack (·.settleCount index)
  let stack ← getStack
  let position := (stack.position index).bytes
  let status : ErrorStatus := {
    cost, isInError
    nodeCount := stack.nodesSinceError index
    dynamicPrecedence := stack.dynamicPrecedence index }
  for other in [0:stack.count] do
    unless other == index || !stack.isActive other ||
        (stack.position other).bytes < position do
      modifyStack (·.settleCount other)
      let stack ← getStack
      match status.compare (stack.status other) with
      | .takeRight => return true
      | .preferRight =>
        if stack.canMerge other index then
          return true
      | _ => pure ()
  return false

/-! Choosing between trees for the same text. -/

/-- Whether the second tree is better than the first. -/
def prefersRight (left right : Subtree) : Bool :=
  if right.errorCost < left.errorCost then true
  else if left.errorCost < right.errorCost then false
  else if left.dynamicPrecedence < right.dynamicPrecedence then true
  else if right.dynamicPrecedence < left.dynamicPrecedence then false
  else if 0 < left.errorCost then true
  else Subtree.compareTrees left right == .gt

/-! Walking through an earlier tree. -/

namespace ReusableEntry

/-- Goes to the first child. -/
def descend? : List ReusableEntry → Option (List ReusableEntry)
  | [] => none
  | entry :: above =>
    match entry.tree.children with
    | [] => none
    | first :: rest => some (⟨first, rest, entry.offset⟩ :: entry :: above)

/-- Goes to what follows in the text, from a place above; `offset` is where that starts. -/
def next (offset : Nat) : List ReusableEntry → List ReusableEntry
  | [] => []
  | entry :: above =>
    match above with
    | [] => []
    | _ :: _ => match entry.following with
      | [] => next offset above
      | first :: rest => ⟨first, rest, offset⟩ :: above

/-- Goes past a subtree. -/
def advance : List ReusableEntry → List ReusableEntry
  | [] => []
  | entry :: above => next (entry.offset + entry.tree.total.bytes) (entry :: above)

/-- Goes past the first leaf of a subtree.  `fuel` bounds its depth. -/
def advancePastLeaf : Nat → List ReusableEntry → List ReusableEntry
  | 0, entries => advance entries
  | fuel + 1, entries => match descend? entries with
    | some below => advancePastLeaf fuel below
    | none => advance entries

/-- Starts below the root, whose own children include the end of the text. -/
def ofTree (tree : Subtree) : List ReusableEntry :=
  (descend? [⟨tree, [], 0⟩]).getD []

end ReusableEntry

/-- A bound on the depth of trees over a text. -/
def depthBound (source : ByteArray) : Nat := 64 * (source.size + 16)

/-! Actions. -/

/-- Whether a token read elsewhere is the one that would be read in a state. -/
def canReuseFirstLeaf (language : Language) (state : Nat) (tree : Subtree) : Bool :=
  let symbol := tree.leafSymbol
  let mode := language.mode state
  let sameMode := match tree.leafState with
    | some leafState =>
      language.mode leafState == mode && language.reserved leafState == language.reserved state
    | none => false
  if sameMode && !(language.actions state symbol).isEmpty &&
      (some symbol != language.word ||
        (!tree.facts.isKeyword && tree.facts.state == some state)) then true
  else if tree.facts.size.bytes = 0 ∧ symbol ≠ 0 then false
  else mode.externals.isEmpty && language.isReusable state symbol

def shift (index state : Nat) (lookahead : Subtree) (isExtra : Bool) : ParseM Unit :=
  let tree :=
    if lookahead.isLeaf && isExtra != lookahead.isExtra then
      lookahead.update ({ · with isExtra })
    else lookahead
  modifyStack (·.push index (some tree) (!lookahead.isLeaf) state)

/-- Replaces subtrees on top by their parent, on every way down.  Gives the first version made. -/
def reduce (language : Language) (index symbol count : Nat) (dynamicPrecedence : Int)
    (shape : Nat) (isFragile : Bool) : ParseM (Option Nat) := do
  let initial ← getStack
  let initialCount := initial.count
  let haltedCount := initial.haltedCount
  let (popped, slices) := initial.popCount index count
  modifyStack fun _ => popped
  let mut removed := 0
  let mut position := 0
  for _ in [0:slices.size] do
    match slices[position]? with
    | none => break
    | some slice =>
      let version := slice.version - removed
      -- The slices that share this version.
      let same := (slices.toList.drop (position + 1)).takeWhile (·.version == slice.version)
      position := position + 1 + same.length
      if maxVersions + versionOverflow + haltedCount < version then
        modifyStack (·.removeVersion version)
        removed := removed + 1
      else
        let (children, extras) := Subtree.splitTrailingExtras slice.subtrees
        let mut parent := Subtree.node language symbol children shape
        let mut trailing := extras
        for other in same do
          let (children, extras) := Subtree.splitTrailingExtras other.subtrees
          if prefersRight parent (Subtree.node language symbol children 0) then
            parent := Subtree.node language symbol children shape
            trailing := extras
        let stack ← getStack
        let state := stack.state version
        let next := language.nextState state symbol
        let undecided := isFragile || 1 < slices.size || 1 < initialCount
        parent := parent.update fun facts => { facts with
          fragileLeft := facts.fragileLeft || undecided
          fragileRight := facts.fragileRight || undecided
          state := if undecided then none else some state
          dynamicPrecedence := facts.dynamicPrecedence + dynamicPrecedence }
        let finished := parent
        modifyStack (·.push version (some finished) false next)
        for tree in trailing do
          modifyStack (·.push version (some tree) false next)
        for other in [0:version] do
          unless other == index do
            if let some merged := (← getStack).merge? other version then
              modifyStack fun _ => merged
              removed := removed + 1
              break
  return if initialCount < (← getStack).count then some initialCount else none

/-- Accepts the tree on a version. -/
def accept (language : Language) (index : Nat) (lookahead : Subtree) : ParseM Unit := do
  modifyStack (·.push index (some lookahead) false 1)
  let (popped, slices) := (← getStack).popAll index
  modifyStack fun _ => popped
  for slice in slices do
    let reversed := slice.subtrees.reverse
    let after := (reversed.takeWhile (·.isExtra)).reverse
    match reversed.dropWhile (·.isExtra) with
    | [] => pure ()
    | tree :: before =>
      let root := Subtree.node language tree.symbol
        (before.reverse ++ tree.children ++ after) tree.facts.shape
      modify fun run => { run with
        accepts := run.accepts + 1
        finished := match run.finished with
          | some known => if prefersRight known root then some root else some known
          | none => some root }
  if let some slice := slices[0]? then
    modifyStack (·.removeVersion slice.version)
  modifyStack (·.halt index)

/-- Makes the reductions that a state allows, on one token or on any, in all versions that arise.
Tells whether a version can take the token. -/
def reduceAll (language : Language) (start : Nat) (symbol : Option Nat) : ParseM Bool := do
  let initialCount := (← getStack).count
  let mut canShift := false
  let mut version := start
  for round in [0:10000] do
    let versionCount := (← getStack).count
    if versionCount ≤ version then
      break
    let mut merged := false
    for other in [initialCount:version] do
      if let some stack := (← getStack).merge? other version then
        modifyStack fun _ => stack
        merged := true
        break
    unless merged do
      let state := (← getStack).state version
      let mut hasShift := false
      let mut reductions : Array (Nat × Nat × Int × Nat) := #[]
      let symbols := match symbol with
        | some symbol => [symbol]
        | none => (List.range language.tokenCount).drop 1
      for symbol in symbols do
        for action in language.actions state symbol do
          match action with
          | .shift _ false => hasShift := true
          | .recover => hasShift := true
          | .reduce target count precedence shape =>
            unless count == 0 || reductions.any fun (s, c, _, _) => s == target && c == count do
              reductions := reductions.push (target, count, precedence, shape)
          | _ => pure ()
      let mut reduced : Option Nat := none
      for (target, count, precedence, shape) in reductions do
        reduced ← reduce language version target count precedence shape true
      let mut again := false
      if hasShift then
        canShift := true
      else
        match reduced with
        | some made =>
          if round < maxVersions then
            modifyStack (·.renumber made version)
            again := true
          else if symbol.isSome then
            modifyStack (·.removeVersion version)
        | none =>
          if symbol.isSome then
            modifyStack (·.removeVersion version)
      unless again do
        version := if version == start then versionCount else version + 1
  return canShift

/-- Goes back to a state further down, and wraps what was above it in an error. -/
def recoverToState (language : Language) (index depth goal : Nat) : ParseM Bool := do
  let (popped, slices) := (← getStack).popCount index depth
  modifyStack fun _ => popped
  let mut previous : Option Nat := none
  for slice in slices do
    unless previous == some slice.version do
      if (← getStack).state slice.version != goal then
        modifyStack (·.halt slice.version)
      else
        let (stack, errors) := (← getStack).popError slice.version
        modifyStack fun _ => stack
        let inner := errors.flatMap (·.children)
        let (children, extras) := Subtree.splitTrailingExtras (inner ++ slice.subtrees)
        unless children.isEmpty do
          let error := Subtree.errorNode language children true
          modifyStack (·.push slice.version (some error) false goal)
        for tree in extras do
          modifyStack (·.push slice.version (some tree) false goal)
        previous := some slice.version
  return previous.isSome

/-- Recovers from an error at a token: in a state further down where it is valid, and by skipping
it. -/
def recover (language : Language) (index : Nat) (lookahead : Subtree) : ParseM Unit := do
  modifyStack (·.settleCount index)
  let stack ← getStack
  let previousCount := stack.count
  let position := stack.position index
  let nodesSinceError := stack.nodesSinceError index
  let currentCost := stack.errorCost index
  let mut didRecover := false
  if !lookahead.isError then
    for entry in ((stack.version index).summary).getD #[] do
      if entry.state == 0 || entry.position.bytes == position.bytes then
        continue
      let depth := if 0 < nodesSinceError then entry.depth + 1 else entry.depth
      let now ← getStack
      let wouldMerge := (List.range previousCount).any fun other =>
        now.state other == entry.state && (now.position other).bytes == position.bytes
      if wouldMerge then
        continue
      let newCost := currentCost + entry.depth * errorCosts.skippedTree +
        (position.bytes - entry.position.bytes) * errorCosts.skippedCharacter +
        (position.point.row - entry.position.point.row) * errorCosts.skippedLine
      if ← betterVersionExists index false newCost then
        break
      unless (language.actions entry.state lookahead.symbol).isEmpty do
        if ← recoverToState language index depth entry.state then
          didRecover := true
          break
  -- Versions that were made and halted on the way.
  let mut other := previousCount
  for _ in [0:(← getStack).count] do
    if (← getStack).count ≤ other then
      break
    if (← getStack).isActive other then
      other := other + 1
    else
      let inactive := other
      modifyStack (·.removeVersion inactive)
  if lookahead.isEnd then
    let error := Subtree.errorNode language [] false
    modifyStack (·.push index (some error) false 1)
    accept language index lookahead
    return
  if didRecover && maxVersions < (← getStack).count then
    modifyStack (·.halt index)
    return
  let newCost := currentCost + errorCosts.skippedTree +
    lookahead.total.bytes * errorCosts.skippedCharacter +
    lookahead.total.point.row * errorCosts.skippedLine
  if ← betterVersionExists index false newCost then
    modifyStack (·.halt index)
    return
  let skipped :=
    if (language.actions 1 lookahead.symbol).back? == some .shiftExtra then
      lookahead.update ({ · with isExtra := true })
    else lookahead
  let mut error := Subtree.node language errorRepeatSymbol [skipped] 0
  if 0 < nodesSinceError then
    let (popped, slices) := (← getStack).popCount index 1
    modifyStack fun _ => popped
    if let some slice := slices[0]? then
      if 1 < slices.size then
        modifyStack fun stack =>
          { stack with versions := stack.versions.extract 0 (slice.version + 1) }
      modifyStack (·.renumber slice.version index)
      error := Subtree.node language errorRepeatSymbol (slice.subtrees ++ [error]) 0
  let finished := error
  modifyStack (·.push index (some finished) false 0)

/-- Takes apart the subtree at hand as far as a state needs. -/
def breakdownLookahead (source : ByteArray) (lookahead : Subtree) (state : Nat) :
    ParseM Subtree := do
  let mut lookahead := lookahead
  for _ in [0:depthBound source] do
    let run ← get
    match run.reusable with
    | entry :: _ =>
      if !entry.tree.isLeaf && entry.tree.facts.state != some state then
        match ReusableEntry.descend? run.reusable with
        | some below =>
          modify ({ · with reusable := below })
          if let first :: _ := below then
            lookahead := first.tree
        | none => break
      else
        break
    | [] => break
  return lookahead

/-- Starts recovering from an error: reduces what can be reduced, tries a missing token, and marks
the place. -/
def handleError (language : Language) (source : ByteArray) (index : Nat) (lookahead : Subtree) :
    ParseM Unit := do
  let previousCount := (← getStack).count
  let _ ← reduceAll language index none
  let versionCount := (← getStack).count
  let mut didInsert := false
  let mut version := index
  for _ in [0:versionCount + 1] do
    if versionCount ≤ version then
      break
    unless didInsert do
      let state := (← getStack).state version
      for missing in [1:language.tokenCount] do
        let after := language.nextState state missing
        if after == 0 || after == state then
          continue
        if (language.actions after lookahead.leafSymbol)[0]? matches some (Action.reduce ..) then
          let (copied, copy) := (← getStack).copyVersion version
          let tree := Subtree.missingLeaf language missing .zero
            (lookahead.total.bytes + lookahead.facts.lookaheadBytes)
          modifyStack fun _ => copied.push copy (some tree) false after
          -- Before the end of the text any token may follow.
          let following := if lookahead.leafSymbol = 0 then none else some lookahead.leafSymbol
          if ← reduceAll language copy following then
            didInsert := true
            break
    let current := version
    modifyStack (·.push current none false 0)
    version := if version == index then previousCount else version + 1
  for _ in [previousCount:versionCount] do
    if let some merged := (← getStack).merge? index previousCount then
      modifyStack fun _ => merged
  modifyStack (·.recordSummary index maxSummaryDepth)
  let lookahead ←
    if lookahead.isLeaf then pure lookahead else breakdownLookahead source lookahead 0
  recover language index lookahead

/-- Takes apart subtrees on top that were reused whole. -/
def breakdownTop (language : Language) (source : ByteArray) (index : Nat) : ParseM Bool := do
  let mut didBreak := false
  for _ in [0:depthBound source] do
    let (popped, slices) := (← getStack).popPending index
    modifyStack fun _ => popped
    if slices.isEmpty then
      break
    didBreak := true
    let mut pending := false
    for slice in slices do
      let mut state := (← getStack).state slice.version
      match slice.subtrees with
      | [] => pure ()
      | parent :: rest =>
        for child in parent.children do
          pending := !child.isLeaf
          if child.isError then
            state := 0
          else if !child.isExtra then
            state := language.nextState state child.symbol
          let (isPending, next) := (pending, state)
          modifyStack (·.push slice.version (some child) isPending next)
        let next := state
        for tree in rest do
          modifyStack (·.push slice.version (some tree) false next)
    unless pending do
      break
  return didBreak

/-- A subtree of the earlier tree that stands at a position unchanged. -/
def reuseNode (language : Language) (source : ByteArray) (index state position : Nat) :
    ParseM (Option Subtree × Nat) := do
  let mut state := state
  for _ in [0:depthBound source] do
    let run ← get
    match run.reusable with
    | [] => return (none, state)
    | entry :: _ =>
      let tree := entry.tree
      if position < entry.offset then
        return (none, state)
      else if entry.offset < position then
        let ended := !tree.isEnd && entry.offset + tree.total.bytes ≤ position
        match (if ended then none else ReusableEntry.descend? run.reusable) with
        | some below => modify ({ · with reusable := below })
        | none => modify ({ · with reusable := ReusableEntry.advance run.reusable })
      else if tree.facts.hasChanges || tree.isError || tree.facts.isMissing || tree.isFragile then
        match ReusableEntry.descend? run.reusable with
        | some below => modify ({ · with reusable := below })
        | none =>
          modify ({ · with reusable := ReusableEntry.advance run.reusable })
          let _ ← breakdownTop language source index
          state := (← getStack).state index
      else if canReuseFirstLeaf language state tree then
        return (some tree, state)
      else
        modify ({ · with
          reusable := ReusableEntry.advancePastLeaf (depthBound source) run.reusable })
        return (none, state)
  return (none, state)

/-- Reads the token of a version. -/
def lexToken (parseable : Parseable) (source : ByteArray) (index state : Nat) : ParseM Subtree := do
  let stack ← getStack
  let position := stack.position index
  let result := readToken parseable source position state (stack.hasAdvancedSinceError index)
  modify fun run => { run with
    cache := some (position.bytes, result.tree)
    advanced := run.advanced || result.advanced }
  return result.tree

/-- What a round of actions on one token has led to. -/
inductive Progress
  | done
  | reduced (version : Option Nat)
  | stuck

/-- Takes the actions of a state on a token.  Reductions make versions of their own; a shift ends the
round. -/
def act (language : Language) (source : ByteArray) (index state : Nat) (lookahead : Subtree)
    (didReuse : Bool) (actions : Array Action) : ParseM Progress := do
  let mut reduced := false
  let mut last : Option Nat := none
  let passReused : ParseM Unit :=
    if didReuse then modify fun run => { run with reusable := ReusableEntry.advance run.reusable }
    else pure ()
  for action in actions do
    match action with
    | .shift _ true => pure ()
    | .shift next false =>
      if lookahead.isLeaf then
        shift index next lookahead false
      else
        let part ← breakdownLookahead source lookahead state
        shift index (language.nextState state part.symbol) part false
      passReused
      return .done
    | .shiftExtra =>
      if lookahead.isLeaf then
        shift index state lookahead true
      else
        let part ← breakdownLookahead source lookahead state
        shift index (language.nextState state part.symbol) part true
      passReused
      return .done
    | .reduce symbol count precedence shape =>
      let version ← reduce language index symbol count precedence shape (1 < actions.size)
      reduced := true
      if version.isSome then
        last := version
    | .accept =>
      accept language index lookahead
      return .done
    | .recover =>
      let part ←
        if lookahead.isLeaf then pure lookahead else breakdownLookahead source lookahead 0
      recover language index part
      passReused
      return .done
  return if reduced then .reduced last else .stuck

/-- Takes a version one token further. -/
def advanceVersion (parseable : Parseable) (source : ByteArray) (index : Nat)
    (allowReuse : Bool) : ParseM Unit := do
  let language := parseable.language
  let stack ← getStack
  let position := (stack.position index).bytes
  let mut state := stack.state index
  let mut lookahead : Option Subtree := none
  let mut didReuse := false
  if allowReuse then
    let (found, next) ← reuseNode language source index state position
    state := next
    lookahead := found
    didReuse := found.isSome
  if lookahead.isNone then
    if let some (cachedAt, token) := (← get).cache then
      if cachedAt == position && canReuseFirstLeaf language state token then
        lookahead := some token
  let mut tree ← match lookahead with
    | some tree => pure tree
    | none => lexToken parseable source index state
  let mut actions := language.actions state tree.leafSymbol
  for _ in [0:depthBound source] do
    match ← act language source index state tree didReuse actions with
    | .done => return
    | .reduced (some version) =>
      modifyStack (·.renumber version index)
      state := (← getStack).state index
      actions := language.actions state tree.leafSymbol
    | .reduced none =>
      modifyStack (·.halt index)
      return
    | .stuck =>
      -- A keyword that is not valid may be a plain word that is.
      if let some word := language.word then
        if tree.facts.isKeyword && tree.isLeaf && tree.symbol != word &&
            !language.isReserved state tree.symbol then
          let wordActions := language.actions state word
          unless wordActions.isEmpty do
            let info := language.symbolInfo word
            tree := tree.update ({ · with
              symbol := word, firstLeafSymbol := word
              isVisible := info.isVisible, isNamed := info.isNamed })
            actions := wordActions
            continue
      if state == 0 then
        recover language index tree
        return
      if ← breakdownTop language source index then
        state := (← getStack).state index
        tree ← lexToken parseable source index state
        actions := language.actions state tree.symbol
        continue
      let stuck := tree
      modifyStack (·.pause index stuck)
      return

/-- Drops the versions that are clearly worse than others, and lets the best go on if all have met an
error.  Gives the least cost of a version. -/
def condense (language : Language) (source : ByteArray) : ParseM (Option Nat) := do
  let mut least : Option Nat := none
  let lower (least : Option Nat) (cost : Nat) : Option Nat :=
    some (match least with
      | some known => min known cost
      | none => cost)
  let mut i := 0
  for _ in [0:10000] do
    if (← getStack).count ≤ i then
      break
    if (← getStack).isHalted i then
      let halted := i
      modifyStack (·.removeVersion halted)
      continue
    let current := i
    modifyStack (·.settleCount current)
    let status := (← getStack).status i
    unless status.isInError do
      least := lower least status.cost
    let mut j := 0
    let mut gone := false
    for _ in [0:10000] do
      if i ≤ j || gone then
        break
      let stack := (← getStack).settleCount j
      modifyStack fun _ => stack
      match (stack.status j).compare status with
      | .takeLeft =>
        let worse := i
        modifyStack (·.removeVersion worse)
        gone := true
      | .preferLeft | .none =>
        if let some merged := stack.merge? j i then
          modifyStack fun _ => merged
          gone := true
        else
          j := j + 1
      | .preferRight =>
        if let some merged := stack.merge? j i then
          modifyStack fun _ => merged
          gone := true
        else
          let (left, right) := (i, j)
          modifyStack (·.swapVersions left right)
          j := j + 1
      | .takeRight =>
        let worse := j
        modifyStack (·.removeVersion worse)
        i := i - 1
    unless gone do
      i := i + 1
  modifyStack fun stack => { stack with versions := stack.versions.extract 0 maxVersions }
  let mut hasUnpaused := false
  let mut index := 0
  let mut bound := (← getStack).count
  for _ in [0:bound] do
    if bound ≤ index then
      break
    match ((← getStack).version index).status with
    | .paused lookahead =>
      if !hasUnpaused && (← get).accepts < maxVersions then
        least := some ((← getStack).errorCost index)
        let resumed := index
        modifyStack (·.setVersion resumed ({ · with status := .active }))
        handleError language source index lookahead
        hasUnpaused := true
        index := index + 1
      else
        let worse := index
        modifyStack (·.removeVersion worse)
        bound := bound - 1
    | _ =>
      hasUnpaused := true
      index := index + 1
  return least

/-- Takes each version one token further. -/
def advanceAll (parseable : Parseable) (source : ByteArray) (lastPosition : Nat) :
    ParseM (Nat × Nat) := do
  let mut last := lastPosition
  let mut version := 0
  let mut count := 0
  for _ in [0:10000] do
    count := (← getStack).count
    if count ≤ version then
      break
    for _ in [0:depthBound source] do
      unless (← getStack).isActive version do
        break
      advanceVersion parseable source version (count == 1)
      let position := ((← getStack).position version).bytes
      if last < position || (0 < version && position == last) then
        last := position
        break
    version := version + 1
  return (count, last)

/-- Parses a text, using again what it can of an earlier tree. -/
def runParser (parseable : Parseable) (source : ByteArray) : ParseM Unit := do
  let mut last := 0
  for _ in [0:depthBound source] do
    let (count, position) ← advanceAll parseable source last
    last := position
    let least ← condense parseable.language source
    if let some tree := (← get).finished then
      let isBest := match least with
        | some cost => decide (tree.errorCost < cost)
        | none => true
      if isBest then
        break
    if count == 0 then
      break

/-- A parsed text: its tree, and whether any character had to be read. -/
structure Parsed where
  tree : Subtree
  readText : Bool
  deriving Inhabited

/-- Parses a text, given the edited tree of an earlier text if there is one. -/
def parse (parseable : Parseable) (text : String) (earlier : Option Subtree) : Parsed :=
  let source := text.toUTF8
  let start : Run := { reusable := ((earlier.map ReusableEntry.ofTree)).getD [] }
  let (_, run) := (runParser parseable source).run start
  { tree := run.finished.getD (.errorNode parseable.language [] false)
    readText := run.advanced }

end SyntaxExplorer.Parsing
