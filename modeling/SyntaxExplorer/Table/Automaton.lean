import SyntaxExplorer.Table.Closure
/-!
The states of a grammar's parser before any are merged.  Each state is a set of items; its actions
shift a token, or reduce a production when one of the tokens that may follow comes next.  Precedence
and associativity settle conflicts as far as the grammar says; the rest stays undecided.
-/

namespace SyntaxExplorer.Table

open Grammar

/-- What to do on a token. -/
inductive Action
  | shift (state : Nat) (repetition : Bool)
  | shiftExtra
  | reduce (rule : Nat) (childCount : Nat) (dynamicPrecedence : Int) (shape : Nat)
  | accept
  | recover
  deriving BEq, DecidableEq, Hashable, Repr, Inhabited

/-- A parse state: its actions by the number of the token, and its successors by rule.  State zero is
no state's successor, so it stands for none. -/
structure State where
  actions : Array (Array Action)
  gotos : Array Nat
  core : Nat
  reserved : Nat
  deriving Inhabited

/-- What reductions on a token have in common. -/
structure ReductionInfo where
  precedence : Precedence := .none
  rules : List Nat := []
  left : Bool := false
  right : Bool := false
  unspecified : Bool := false
  deriving Inhabited

/-- The rules whose nodes hold a helper rule's repetition, for the nearest such use. -/
abbrev HelperParents := List (Nat × List Nat)

/-- A conflict that the grammar did not announce. -/
structure Unresolved where
  state : Nat
  lookahead : Nat
  rules : List Nat
  deriving Repr, Inhabited

structure Automaton where
  states : Array State := #[]
  kernels : Array (Array Entry) := #[]
  helpers : Array HelperParents := #[]
  numbers : Std.HashMap (Array Entry) Nat := {}
  cores : Std.HashMap (Array Nat) Nat := {}
  unresolved : Array Unresolved := #[]
  /-- The announced conflicts that occurred. -/
  met : List (List Nat) := []
  deriving Inhabited

namespace Automaton

/-- Compares two precedences: by number, or by the first ordering that ranks both. -/
def comparePrecedences (orderings : List (List Rank)) (ruleName : Nat → String)
    (left : Precedence) (leftRules : List Nat) (right : Precedence) (rightRules : List Nat) :
    Ordering :=
  let matchesRank (rank : Rank) (precedence : Precedence) (rules : List Nat) : Bool :=
    match rank with
    | .named name => precedence == .named name
    | .rule name => rules.any fun rule => ruleName rule == name
  let rec rankIn (sawLeft sawRight : Bool) : List Rank → Option Ordering
    | [] => none
    | rank :: rest =>
      if matchesRank rank left leftRules then
        if sawRight then some .lt else rankIn true sawRight rest
      else if matchesRank rank right rightRules then
        if sawLeft then some .gt else rankIn sawLeft true rest
      else rankIn sawLeft sawRight rest
  let ranked : Ordering := (orderings.findSome? (rankIn false false)).getD .eq
  match left, right with
  | .level l, .level r => if l ≠ 0 ∨ r ≠ 0 then compare l r else ranked
  | .level l, .none => if l ≠ 0 then compare l 0 else ranked
  | .none, .level r => if r ≠ 0 then compare 0 r else ranked
  | _, _ => ranked

/-- Finds or makes the state of a set of items. -/
def addState (automaton : Automaton) (terminals rules : Nat) (kernel : Array Entry)
    (helpers : HelperParents) : Automaton × Nat :=
  match automaton.numbers[kernel]? with
  | some number => (automaton, number)
  | none =>
    let number := automaton.states.size
    let core := kernel.map (·.item)
    let coreNumber := automaton.cores.getD core automaton.cores.size
    ({ automaton with
        states := automaton.states.push {
          actions := Array.replicate terminals #[]
          gotos := Array.replicate rules 0
          core := coreNumber
          reserved := 0 }
        kernels := automaton.kernels.push kernel
        helpers := automaton.helpers.push helpers
        numbers := automaton.numbers.insert kernel number
        cores := automaton.cores.insertIfNew core coreNumber }, number)

/-- Everything that stays the same while states are built. -/
structure Context where
  grammar : SyntaxGrammar
  table : ItemTable
  expansions : Expansions
  word : Option Nat
  extras : List Nat
  helperRules : Array Bool
  conflicts : List (List Nat)

def Context.ruleName (context : Context) (rule : Nat) : String :=
  ((context.grammar.rules[rule]?).map (·.name)).getD ""

def Context.isHelper (context : Context) (rule : Nat) : Bool :=
  context.helperRules[rule]?.getD false

/-- The reductions of a state by token, weaker ones left out, with the tokens that have several. -/
structure Reductions where
  actions : Array (Array Action)
  infos : Array ReductionInfo
  conflicts : TokenSet := .empty

/-- Adds a finished item's action on a token. -/
def Reductions.add (context : Context) (facts : ItemFacts) (action : Action)
    (reductions : Reductions) (lookahead : Nat) : Reductions :=
  let known := reductions.actions[lookahead]!
  let info := reductions.infos[lookahead]!
  let record (info : ReductionInfo) : ReductionInfo :=
    let rule := facts.item.rule
    { precedence := facts.precedence
      rules := if info.rules.contains rule then info.rules else rule :: info.rules
      left := info.left || facts.associativity == some .left
      right := info.right || facts.associativity == some .right
      unspecified := info.unspecified || facts.associativity.isNone }
  if known.isEmpty then
    { reductions with
        actions := reductions.actions.set! lookahead #[action]
        infos := reductions.infos.set! lookahead (record info) }
  else
    match comparePrecedences context.grammar.orderings context.ruleName facts.precedence
        [facts.item.rule] info.precedence info.rules with
    | .gt =>
      { actions := reductions.actions.set! lookahead #[action]
        infos := reductions.infos.set! lookahead (record {})
        conflicts := ⟨if reductions.conflicts.contains lookahead then
          reductions.conflicts.bits ^^^ (TokenSet.singleton lookahead).bits
          else reductions.conflicts.bits⟩ }
    | .eq =>
      { actions := reductions.actions.set! lookahead (known.push action)
        infos := reductions.infos.set! lookahead (record info)
        conflicts := reductions.conflicts.insert lookahead }
    | .lt => reductions

/-- Settles the conflict on one token, and gives the rules that stay in conflict if any do. -/
def settle (context : Context) (closure : Array (Nat × TokenSet)) (lookahead : Nat)
    (info : ReductionInfo) (actions : Array Action) : Array Action × List Nat := Id.run do
  let mut shiftRanks : List (Precedence × Nat) := []
  let mut shifting : List Nat := []
  let mut reducing : List Nat := []
  for (item, lookaheads) in closure do
    let facts := context.table.items[item]!
    match facts.next with
    | some next =>
      if 0 < facts.item.position && (context.expansions.first[next]!).contains lookahead then
        unless item == context.table.startItem do
          shifting := facts.item.rule :: shifting
        let rank := (facts.precedence, facts.item.rule)
        unless shiftRanks.contains rank do
          shiftRanks := rank :: shiftRanks
    | none =>
      if lookaheads.contains lookahead && facts.item.rule < context.grammar.rules.size then
        reducing := facts.item.rule :: reducing
  match actions.back? with
  | some (.shift state _) =>
    -- A repetition may go on in two ways, which is how it was built.
    let all := shifting ++ reducing
    match all with
    | rule :: _ =>
      if context.isHelper rule && all.all (· == rule) then
        return (actions.pop.push (.shift state true), [])
    | [] => pure ()
    let compareShift (rank : Precedence × Nat) : Ordering :=
      comparePrecedences context.grammar.orderings context.ruleName rank.1 [rank.2]
        info.precedence info.rules
    let isMore := shiftRanks.any (compareShift · == .gt)
    let isLess := shiftRanks.any (compareShift · == .lt)
    if isMore && !isLess then
      return (#[.shift state false], [])
    else if isLess && !isMore then
      let left := actions.pop
      return (left, if left.size ≤ 1 then [] else reducing)
    else if !isLess && !isMore then
      match info.left, info.unspecified, info.right with
      | true, false, false =>
        let left := actions.pop
        return (left, if left.size ≤ 1 then [] else reducing)
      | false, false, true => return (#[.shift state false], [])
      | _, _, _ => return (actions, all)
    else
      return (actions, all)
  | _ => return (actions, if actions.size ≤ 1 then [] else shifting ++ reducing)

/-- The rules of a conflict, helper rules replaced by the rules that hold them. -/
def conflictRules (context : Context) (helpers : HelperParents) (rules : List Nat) : List Nat :=
  let named := rules.flatMap fun rule =>
    if context.isHelper rule then ((helpers.find? (·.1 == rule)).map (·.2)).getD [] else [rule]
  (named.mergeSort (· ≤ ·)).eraseReps

/-- Builds the actions of one state, making the states it leads to. -/
def addActions (context : Context) (automaton : Automaton) (space : Workspace) (state : Nat) :
    Automaton × Workspace := Id.run do
  let table := context.table
  let terminals := table.alphabet.terminals
  let rules := context.grammar.rules.size
  let kernel := automaton.kernels[state]!
  let filled := space.addClosure table context.expansions context.word kernel
  let members := filled.members.qsort (· < ·)
  let mut reductions : Reductions := {
    actions := Array.replicate terminals #[]
    infos := Array.replicate terminals {} }
  let mut successors : Array (Array Entry) := Array.replicate (terminals + rules) #[]
  let mut helpers := automaton.helpers[state]!
  let mut newHelpers : HelperParents := []
  let mut reserved : Nat := 0
  for item in members do
    let facts := table.items[item]!
    let lookahead := filled.lookaheads[item]!
    let itemReserved := filled.reserved[item]!
    match facts.next with
    | some next =>
      if terminals ≤ next && context.isHelper (next - terminals) then
        let helper := next - terminals
        let holder := facts.item.rule
        let parents := ((newHelpers.find? (·.1 == helper)).map (·.2)).getD []
        let parents :=
          if context.isHelper holder || parents.contains holder then parents
          else holder :: parents
        newHelpers := (helper, parents) :: newHelpers.filter (·.1 != helper)
      if some next == context.word then
        reserved := max reserved facts.reserved
      let entry : Entry := { item := facts.successor, lookahead, reserved := itemReserved }
      successors := successors.modify next fun entries =>
        match entries.back? with
        | some last =>
          -- Equal items may come from different predecessors.
          if last.item == entry.item then
            entries.pop.push { last with
              lookahead := last.lookahead.union lookahead
              reserved := max last.reserved itemReserved }
          else entries.push entry
        | none => entries.push entry
    | none =>
      if let some word := context.word then
        if lookahead.contains word then
          reserved := max reserved itemReserved
      let action :=
        if facts.item.rule == rules then .accept
        else .reduce facts.item.rule facts.item.position facts.item.production.dynamicPrecedence
          facts.shape
      for token in [0:terminals] do
        if lookahead.contains token then
          reductions := reductions.add context facts action token
  helpers := newHelpers ++ helpers
  -- Shifts and successors.
  let mut automaton := automaton
  let mut actions := reductions.actions
  let mut conflicts := reductions.conflicts
  let mut gotos := Array.replicate rules 0
  for number in [0:terminals + rules] do
    let entries := successors[number]!
    unless entries.isEmpty do
      let sorted := (entries.qsort fun a b => a.item < b.item).foldl
        (fun (found : Array Entry) entry => match found.back? with
          | some last =>
            if last.item == entry.item then
              found.pop.push { last with
                lookahead := last.lookahead.union entry.lookahead
                reserved := max last.reserved entry.reserved }
            else found.push entry
          | none => found.push entry)
        #[]
      let (added, target) := automaton.addState terminals rules sorted helpers
      automaton := added
      if number < terminals then
        unless (actions[number]!).isEmpty do
          conflicts := conflicts.insert number
        actions := actions.modify number (·.push (.shift target false))
      else
        gotos := gotos.set! (number - terminals) target
  -- Conflicts.
  unless conflicts.isEmpty do
    let closure := members.map fun item => (item, filled.lookaheads[item]!)
    for number in conflicts.below terminals do
      let (settled, rest) :=
        settle context closure number reductions.infos[number]! actions[number]!
      actions := actions.set! number settled
      unless rest.isEmpty do
        let rules := conflictRules context helpers rest
        if context.conflicts.contains rules then
          unless automaton.met.contains rules do
            automaton := { automaton with met := rules :: automaton.met }
        else
          automaton :=
            { automaton with unresolved := automaton.unresolved.push ⟨state, number, rules⟩ }
  for extra in context.extras do
    if (actions[extra]!).isEmpty then
      actions := actions.set! extra #[.shiftExtra]
  let finished := actions
  let finishedGotos := gotos
  let finishedReserved := reserved
  automaton := { automaton with
    states := automaton.states.modify state ({ · with
      actions := finished, gotos := finishedGotos, reserved := finishedReserved }) }
  return (automaton, filled.clear)

/-- The most states that a parser may have. -/
def stateLimit : Nat := 1000000

/-- All states that the start state leads to.  State zero, without items, is for errors. -/
def ofGrammar (grammar : SyntaxGrammar) (table : ItemTable) (expansions : Expansions) :
    Automaton := Id.run do
  let alphabet := table.alphabet
  let context : Context := {
    grammar, table, expansions
    word := grammar.word.map fun token => alphabet.number (.token token)
    extras := grammar.extras.map alphabet.number
    helperRules := grammar.rules.map (·.kind == .auxiliary)
    conflicts := grammar.conflicts.map fun symbols =>
      ((symbols.filterMap fun
        | .rule index => some index
        | _ => none).mergeSort (· ≤ ·)).eraseReps }
  let mut automaton : Automaton := {}
  let (added, _) := automaton.addState alphabet.terminals grammar.rules.size #[] []
  automaton := added
  let start : Entry := ⟨table.startItem, .singleton (alphabet.number .endOfInput), 0⟩
  let (added, _) := automaton.addState alphabet.terminals grammar.rules.size #[start] []
  automaton := added
  let mut space := Workspace.ofSize table.items.size
  for state in [0:stateLimit] do
    if automaton.states.size ≤ state then
      break
    let (added, cleared) := addActions context automaton space state
    automaton := added
    space := cleared
  return automaton

end Automaton

end SyntaxExplorer.Table
