import SyntaxExplorer.Table.Lookahead
/-!
Merging the states of a parser.  States with the same items but for what may follow are one state,
where neither's tokens can be mistaken for the other's and all successors are merged too.
-/

namespace SyntaxExplorer.Table

open Grammar

/-- A state with its sparse views, for comparing. -/
structure MergeState where
  state : State
  tokens : TokenSet
  tokenList : List Nat
  ruleList : List Nat
  deriving Inhabited

namespace Merging

/-- For each token, the tokens beside which it must not become valid. -/
structure Obstacles where
  alphabet : Alphabet
  conflicts : Array TokenSet
  /-- Tokens whose validity the grammar's scanner sees. -/
  scanned : TokenSet
  deriving Inhabited

def Obstacles.ofLookahead (grammar : SyntaxGrammar) (lookahead : Lookahead) : Obstacles :=
  let alphabet := lookahead.alphabet
  let numberOf (token : Nat) : Nat := alphabet.number (.token token)
  let isWordAndKeyword (i j : Nat) : Bool :=
    lookahead.word == some (numberOf i) && lookahead.keywords.contains (numberOf j)
  let conflictsOf (token : Nat) : TokenSet :=
    TokenSet.ofList <| ((List.range alphabet.tokens).filter fun other =>
      !isWordAndKeyword other token && !isWordAndKeyword token other &&
        (lookahead.rivalries.conflicts token other ||
          (lookahead.rivalries.get token other).matchesSame)).map numberOf
  { alphabet
    conflicts := (Array.range alphabet.terminals).map fun number =>
      match alphabet.token? number with
      | some token => conflictsOf token
      | none => .empty
    scanned := TokenSet.ofList <|
      List.range alphabet.externals ++
        grammar.externals.toList.filterMap fun external => external.internal.map numberOf }

/-- Whether adding some tokens to those of a state could change what is read there. -/
def Obstacles.forbid (obstacles : Obstacles) (added existing : TokenSet) (addedList : List Nat) :
    Bool :=
  obstacles.scanned.meets added ||
    addedList.any fun token =>
      added.contains token && (obstacles.conflicts[token]?.getD .empty).meets existing

/-- Whether two actions do the same once states are merged by group. -/
def sameAction (groups : Array Nat) : Action → Action → Bool
  | .shift s r, .shift t q => groups[s]! == groups[t]! && r == q
  | a, b => a == b

def sameActions (groups : Array Nat) (left right : Array Action) : Bool :=
  left.size == right.size && (left.zip right).all fun (a, b) => sameAction groups a b

/-- Whether two states act differently on a token, or would disturb each other's tokens. -/
def statesConflict (obstacles : Obstacles) (left right : MergeState) (groups : Array Nat) : Bool :=
  (left.tokenList.any fun token =>
    right.tokens.contains token &&
      !sameActions groups left.state.actions[token]! right.state.actions[token]!) ||
    (left.tokens != right.tokens &&
      (obstacles.forbid (left.tokens.difference right.tokens) right.tokens left.tokenList ||
        obstacles.forbid (right.tokens.difference left.tokens) left.tokens right.tokenList))

/-- Whether two states lead to different groups on the same symbol. -/
def successorsDiffer (left right : MergeState) (groups : Array Nat) : Bool :=
  (left.tokenList.any fun token =>
    match left.state.actions[token]!.back?, right.state.actions[token]!.back? with
    | some (.shift s _), some (.shift t _) => groups[s]! != groups[t]!
    | _, _ => false) ||
    left.ruleList.any fun rule =>
      let target := right.state.gotos[rule]!
      target != 0 && groups[left.state.gotos[rule]!]! != groups[target]!

/-- States by group, and the group of each state. -/
structure Partition where
  members : Array (Array Nat)
  groups : Array Nat
  deriving Inhabited

/-- The members of a group that must leave it, and those that stay.  Members are compared with each
other in order, and one that has to leave is not compared further. -/
def divide (states : Array MergeState) (separate : MergeState → MergeState → Array Nat → Bool)
    (groups : Array Nat) (members : Array Nat) : Array Nat × Array Nat := Id.run do
  let mut leaves := Array.replicate members.size false
  let mut order := #[]
  for i in [0:members.size] do
    unless leaves[i]! do
      for j in [i + 1:members.size] do
        unless leaves[j]! do
          if separate states[members[i]!]! states[members[j]!]! groups then
            leaves := leaves.set! j true
            order := order.push members[j]!
  let gone := leaves
  let kept := (members.zip gone).filterMap fun (member, leaves) =>
    if leaves then none else some member
  return (kept, order)

/-- Splits all groups once, new groups included, and tells whether any was split. -/
def split (states : Array MergeState) (separate : MergeState → MergeState → Array Nat → Bool)
    (partition : Partition) : Partition × Bool := Id.run do
  let mut members := partition.members
  let mut groups := partition.groups
  let mut changed := false
  for group in [0:states.size] do
    if members.size ≤ group then
      break
    let current := members[group]!
    if 1 < current.size then
      let (kept, gone) := divide states separate groups current
      unless gone.isEmpty do
        changed := true
        let fresh := members.size
        members := (members.set! group kept).push gone
        for state in gone do
          groups := groups.set! state fresh
  return ({ members, groups }, changed)

/-- Renames the states that a state leads to. -/
def rename (state : State) (newName : Nat → Nat) : State :=
  { state with
    actions := state.actions.map fun actions => actions.map fun
      | .shift target repetition => .shift (newName target) repetition
      | action => action
    gotos := state.gotos.map fun target => if target = 0 then 0 else newName target }

/-- Merges the states that can be merged. -/
def merge (obstacles : Obstacles) (reservedSets : Array TokenSet) (coreCount : Nat)
    (states : Array State) : Array (State × TokenSet) := Id.run do
  let merging := states.map fun state =>
    let tokens := state.tokens
    { state, tokens
      tokenList := tokens.below state.actions.size
      ruleList := (List.range state.gotos.size).filter fun rule => state.gotos[rule]! != 0 :
      MergeState }
  let mut members : Array (Array Nat) := Array.replicate coreCount #[]
  for index in [0:states.size] do
    members := members.modify states[index]!.core (·.push index)
  let start : Partition := { members, groups := states.map (·.core) }
  let mut (partition, _) := split merging (statesConflict obstacles) start
  for _ in [0:states.size] do
    let (next, changed) := split merging successorsDiffer partition
    partition := next
    unless changed do
      break
  let groups := partition.groups
  let reservedOf (state : Nat) : TokenSet :=
    reservedSets[((states[state]?).map (·.reserved)).getD 0]?.getD .empty
  let mut result := #[]
  for group in partition.members do
    let first := group[0]?.getD 0
    let mut actions := states[first]!.actions
    let mut gotos := states[first]!.gotos
    let mut reserved := reservedOf first
    for index in [1:group.size] do
      let other := states[group[index]!]!
      for token in [0:actions.size] do
        unless other.actions[token]!.isEmpty do
          actions := actions.set! token other.actions[token]!
      for rule in [0:gotos.size] do
        unless other.gotos[rule]! == 0 do
          gotos := gotos.set! rule other.gotos[rule]!
      reserved := reserved.union (reservedOf group[index]!)
    let state := rename { states[first]! with actions, gotos } fun target => groups[target]!
    if 1 < group.size then
      reserved := reserved.difference state.tokens
    result := result.push (state, reserved)
  return result

/-- The rule that a state only ever reduces, one child for one parent that no tree shows. -/
def onlyUnit? (grammar : SyntaxGrammar) (shown : Std.HashSet Nat) (state : State) :
    Option Nat := Id.run do
  let isHiddenUnit (rule : Nat) : Bool :=
    !(grammar.defaultAliases.contains (.rule rule)) &&
      !(grammar.supertypes.contains (.rule rule)) && !(grammar.extras.contains (.rule rule)) &&
      !(shown.contains rule) && (grammar.rules[rule]?.getD default).kind != .named
  let mut unit : Option Nat := none
  for actions in state.actions do
    for action in actions do
      match action with
      | .shiftExtra => pure ()
      | .reduce rule 1 0 0 =>
        if isHiddenUnit rule && (unit.isNone || unit == some rule) then
          unit := some rule
        else
          return none
      | _ => return none
  return unit

/-- Leads past states that only reduce a hidden parent of one child. -/
def skipUnits (grammar : SyntaxGrammar) (states : Array (State × TokenSet)) :
    Array (State × TokenSet) := Id.run do
  let mut shown : Std.HashSet Nat := {}
  for rule in grammar.rules do
    for production in rule.productions do
      for step in production.steps do
        if step.shownAs.isSome then
          if let .rule child := step.symbol then
            shown := shown.insert child
  let aliased := shown
  let units := states.map fun (state, _) => onlyUnit? grammar aliased state
  let past (state : State) (target : Nat) : Nat := Id.run do
    let mut target := target
    for _ in [0:grammar.rules.size] do
      match units[target]?.join with
      | none => break
      | some rule =>
        let next := state.gotos[rule]!
        if next == 0 || next == target then
          break
        target := next
    return target
  return states.map fun (state, reserved) => (rename state (past state), reserved)

/-- Drops states that no state leads to, and orders the rest by their number of entries, the error
state and the start state first. -/
def arrange (states : Array (State × TokenSet)) : Array (State × TokenSet) := Id.run do
  let mut reached := Array.replicate states.size false
  reached := (reached.set! 0 true).set! 1 true
  for (state, _) in states do
    for actions in state.actions do
      for action in actions do
        if let .shift target _ := action then
          reached := reached.set! target true
    for target in state.gotos do
      unless target == 0 do
        reached := reached.set! target true
  let seen := reached
  let sizeOf (state : State) : Nat :=
    state.actions.foldl (fun count actions => if actions.isEmpty then count else count + 1) 0 +
      state.gotos.foldl (fun count target => if target == 0 then count else count + 1) 0
  let sized := (Array.range states.size).filterMap fun index =>
    if 1 < index && seen[index]! then some (index, sizeOf (states[index]?.getD default).1)
    else none
  let order := #[0, 1] ++ (sized.toList.mergeSort fun a b => b.2 ≤ a.2).toArray.map (·.1)
  let mut names := Array.replicate states.size 0
  for index in [0:order.size] do
    names := names.set! order[index]! index
  let newNames := names
  return order.map fun index =>
    let (state, reserved) := states[index]!
    (rename state fun target => newNames[target]!, reserved)

end Merging

end SyntaxExplorer.Table
