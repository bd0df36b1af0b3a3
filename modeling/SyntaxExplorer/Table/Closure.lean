import SyntaxExplorer.Table.Item
/-!
What expanding a rule adds to a set of items.  The additions of each rule are computed once, with the
tokens that can follow each added item whatever the set, and with whether the tokens that follow the
rule can follow the item too.
-/

namespace SyntaxExplorer.Table

open Grammar

/-- An item that a rule's expansion adds. -/
structure Addition where
  item : Nat
  lookahead : TokenSet
  reserved : Nat
  /-- Whether the item can end the expansion. -/
  propagates : Bool
  deriving Inhabited

/-- The tokens that start and end each symbol, and the additions of each rule. -/
structure Expansions where
  first : Array TokenSet
  last : Array TokenSet
  /-- The strongest set of reserved words in force where a symbol starts. -/
  reservedFirst : Array Nat
  additions : Array (Array Addition)
  deriving Inhabited

/-- An item in a set, with the tokens that may follow it. -/
structure Entry where
  item : Nat
  lookahead : TokenSet
  reserved : Nat
  deriving BEq, Hashable, Inhabited

/-- What can follow a rule that starts another's expansion. -/
structure FollowInfo where
  lookahead : TokenSet := .empty
  reserved : Nat := 0
  propagates : Bool := false
  deriving Inhabited

namespace Expansions

/-- The tokens at one end of a rule: of its productions' end symbols, and of theirs. -/
def endTokens (grammar : SyntaxGrammar) (alphabet : Alphabet) (atEnd : Production → Option Step)
    (rule : Nat) : TokenSet × Nat := Id.run do
  let mut pending := [rule]
  let mut seen : Std.HashSet Nat := {}
  let mut found := TokenSet.empty
  let mut reserved := 0
  for _ in [0:grammar.rules.size * grammar.rules.size + 1] do
    match pending with
    | [] => break
    | index :: rest =>
      pending := rest
      for production in (grammar.rules[index]?.getD default).productions do
        if let some step := atEnd production then
          reserved := max reserved step.reserved
          match step.symbol with
          | .rule child =>
            unless seen.contains child do
              seen := seen.insert child
              pending := child :: pending
          | symbol => found := found.insert (alphabet.number symbol)
  return (found, reserved)

/-- The rule that a production starts with, if it starts with one. -/
def leadingRule? (production : Production) : Option Nat := do
  let step ← production.steps[0]?
  match step.symbol with
  | .rule child => some child
  | _ => none

/-- The rules that can start a rule's expansion, with what can follow each. -/
def follows (grammar : SyntaxGrammar) (alphabet : Alphabet) (first : Array TokenSet)
    (reservedFirst : Array Nat) (rule : Nat) : Array (Nat × FollowInfo) := Id.run do
  let mut pending : List (Nat × FollowInfo) := [(rule, { propagates := true })]
  let mut order : Array Nat := #[]
  let mut infos : Array (Option FollowInfo) := Array.replicate grammar.rules.size none
  for _ in [0:1000000] do
    match pending with
    | [] => break
    | (index, arriving) :: rest =>
      pending := rest
      let known := infos[index]?.join
      let old := known.getD {}
      let merged : FollowInfo := {
        lookahead := old.lookahead.union arriving.lookahead
        reserved := max old.reserved arriving.reserved
        propagates := old.propagates || arriving.propagates }
      let changed := merged.lookahead != old.lookahead || merged.reserved != old.reserved ||
        merged.propagates != old.propagates
      if known.isNone then
        order := order.push index
      infos := infos.set! index (some merged)
      if changed then
        for production in (grammar.rules[index]?.getD default).productions do
          if let some child := leadingRule? production then
            match production.steps[1]? with
            | some step =>
              let number := alphabet.number step.symbol
              pending := (child, {
                lookahead := first[number]?.getD .empty
                reserved := reservedFirst[number]?.getD 0 }) :: pending
            | none => pending := (child, arriving) :: pending
  let found := infos
  return order.map fun index => (index, (found[index]?.join).getD {})

def ofItems (grammar : SyntaxGrammar) (table : ItemTable) : Expansions := Id.run do
  let alphabet := table.alphabet
  let mut first := #[]
  let mut last := #[]
  let mut reservedFirst := #[]
  for number in [0:alphabet.terminals] do
    first := first.push (TokenSet.singleton number)
    last := last.push (TokenSet.singleton number)
    reservedFirst := reservedFirst.push 0
  for rule in [0:grammar.rules.size] do
    let (starts, reserved) := endTokens grammar alphabet (·.steps[0]?) rule
    let (ends, _) := endTokens grammar alphabet (·.steps.back?) rule
    first := first.push starts
    last := last.push ends
    reservedFirst := reservedFirst.push reserved
  let firsts := first
  let reservedFirsts := reservedFirst
  let mut additions := #[]
  for rule in [0:grammar.rules.size] do
    let mut added := #[]
    for (index, info) in follows grammar alphabet firsts reservedFirsts rule do
      unless grammar.inlined.contains (.rule index) do
        for item in table.starts[index]?.getD #[] do
          added := added.push ⟨item, info.lookahead, info.reserved, info.propagates⟩
    additions := additions.push added
  return { first := firsts, last, reservedFirst := reservedFirsts, additions }

end Expansions

/-- A set of items under construction: the tokens of each item, and the items in it. -/
structure Workspace where
  lookaheads : Array TokenSet
  reserved : Array Nat
  members : Array Nat := #[]
  deriving Inhabited

namespace Workspace

def ofSize (items : Nat) : Workspace where
  lookaheads := Array.replicate items .empty
  reserved := Array.replicate items 0

/-- Adds an item, with the tokens that may follow it. -/
@[inline] def insert (space : Workspace) (item : Nat) (lookahead : TokenSet) (reserved : Nat) :
    Workspace :=
  let old := space.lookaheads[item]!
  let members := if old.isEmpty then space.members.push item else space.members
  { lookaheads := space.lookaheads.set! item (old.union lookahead)
    reserved := space.reserved.modify item (max reserved)
    members }

/-- Adds an item and the expansion of its next symbol.  Reserved words pass on only where the word
token itself can follow. -/
def addExpanded (table : ItemTable) (expansions : Expansions) (word : Option Nat)
    (space : Workspace) (entry : Entry) : Workspace := Id.run do
  let facts := table.items[entry.item]!
  let hasWord (set : TokenSet) : Bool := match word with
    | some number => set.contains number
    | none => false
  let mut space := space
  if let some next := facts.next then
    if table.alphabet.terminals ≤ next then
      let (following, followingReserved) := match facts.afterNext with
        | some after => (expansions.first[after]!, expansions.reservedFirst[after]!)
        | none => (entry.lookahead, entry.reserved)
      let passed := if hasWord following then followingReserved else 0
      for addition in expansions.additions[next - table.alphabet.terminals]! do
        let own := if hasWord addition.lookahead then addition.reserved else 0
        if addition.propagates then
          space := space.insert addition.item (addition.lookahead.union following)
            (max own passed)
        else
          space := space.insert addition.item addition.lookahead own
  return space.insert entry.item entry.lookahead entry.reserved

/-- Adds a set of items with all expansions, inlined symbols replaced. -/
def addClosure (table : ItemTable) (expansions : Expansions) (word : Option Nat)
    (space : Workspace) (entries : Array Entry) : Workspace := Id.run do
  let mut space := space
  for entry in entries do
    let facts := table.items[entry.item]!
    if facts.isInlined then
      for item in facts.inlined do
        space := space.addExpanded table expansions word { entry with item }
    else
      space := space.addExpanded table expansions word entry
  return space

/-- Takes all members out. -/
def clear (space : Workspace) : Workspace := Id.run do
  let mut lookaheads := space.lookaheads
  let mut reserved := space.reserved
  for item in space.members do
    lookaheads := lookaheads.set! item .empty
    reserved := reserved.set! item 0
  return { lookaheads, reserved, members := #[] }

end Workspace

end SyntaxExplorer.Table
