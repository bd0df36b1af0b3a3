import SyntaxExplorer.Parsing.Subtree
import Std.Data.HashMap
/-!
How the children of a symbol can follow each other.  The parse states know: from those where the symbol
may start, each child leads to another, up to one where the symbol is complete.
-/

namespace SyntaxExplorer.Query

open Table

/-- A place among the children of a symbol: the parse state after so many of them, in a production. -/
structure ChildPlace where
  state : Nat
  count : Nat
  shape : Nat
  /-- Whether the symbol may be complete here. -/
  isLast : Bool
  deriving BEq, Repr, Inhabited

/-- The places among the children of a symbol, and the states where the symbol may start. -/
structure ChildGraph where
  starts : List Nat := []
  places : Std.HashMap (Nat × Nat) (List ChildPlace) := {}
  deriving Inhabited

namespace ChildGraph

/-- The places in a state after so many children. -/
def places? (graph : ChildGraph) (state count : Nat) : List ChildPlace :=
  graph.places.getD (state, count) []

/-- The order of the places in one state after equally many children. -/
def comesBefore (left right : ChildPlace) : Bool :=
  (!left.isLast && right.isLast) || (left.isLast == right.isLast && left.shape < right.shape)

/-- Adds a place in its order. -/
def add (graph : ChildGraph) (place : ChildPlace) : ChildGraph :=
  let known := graph.places? place.state place.count
  let (before, after) := (known.takeWhile (comesBefore · place), known.dropWhile (comesBefore · place))
  { graph with
    places := graph.places.insert (place.state, place.count) (before ++ place :: after) }

end ChildGraph

/-- A way from one parse state to the next, over a symbol.  An extra leads nowhere else and is no child
of the symbol around it. -/
structure ParseEdge where
  symbol : Nat
  target : Nat
  isExtra : Bool
  deriving Repr, Inhabited

/-- What the parse states tell about children. -/
structure ChildTables where
  /-- The edges from each state. -/
  edges : Array (Array ParseEdge)
  /-- The states from which each state is reached. -/
  sources : Array (Array Nat)
  /-- For each kind, where it may start and where it is complete. -/
  starts : Array (Array Nat)
  ends : Array (Array ChildPlace)
  /-- The graphs of hidden symbols. -/
  hidden : Std.HashMap Nat ChildGraph := {}
  deriving Inhabited

namespace ChildTables

/-- The most sources that are kept of a state. -/
def maxSources : Nat := 256

/-- The kinds under which a rule's symbol may appear. -/
def kindsOf (language : Language) (symbol : Nat) : List Nat :=
  let others := if symbol < language.tokenCount then [] else language.aliasesOf[symbol]?.getD []
  language.publicSymbol symbol :: others

/-- The edges that a token makes. -/
def tokenEdge? (actions : Array Action) (symbol state : Nat) : Option ParseEdge :=
  match actions.back? with
  | some (.shift target _) => some ⟨symbol, target, false⟩
  | some .shiftExtra => some ⟨symbol, state, true⟩
  | _ => none

/-- The edges from a state, by symbols. -/
def edgesOf (language : Language) (state : Nat) : Array ParseEdge :=
  match language.states[state]? with
  | none => #[]
  | some parseState =>
    let tokens := (Array.range parseState.actions.size).filterMap fun symbol =>
      tokenEdge? (parseState.actions[symbol]?.getD #[]) symbol state
    let rules := (Array.range parseState.gotos.size).filterMap fun rule =>
      let target := parseState.gotos[rule]?.getD 0
      if target = 0 then none else some ⟨language.tokenCount + rule, target, false⟩
    tokens ++ rules

/-- Adds an item to one of some rows, unless it was added there last. -/
def addTo (rows : Array (Array α)) (index : Nat) (isKnown : α → Bool) (item : α) :
    Array (Array α) :=
  rows.modify index fun row =>
    if (row.back?.map isKnown).getD false then row else row.push item

/-- The places before a place: one child fewer, in the states from which its state is reached. -/
def before (tables : ChildTables) (place : ChildPlace) : List ChildPlace :=
  if 1 < place.count then
    (tables.sources[place.state]?.getD #[]).toList.map fun source =>
      ⟨source, place.count - 1, place.shape, false⟩
  else []

/-- The graph of the children of a kind; none if it never has any. -/
def graph? (tables : ChildTables) (kind : Nat) : Option ChildGraph := Id.run do
  let ends := tables.ends[kind]?.getD #[]
  if ends.isEmpty then
    return none
  let mut graph : ChildGraph := {
    starts := (tables.starts[kind]?.getD #[]).toList }
  let mut pending := ends.toList
  for place in ends do
    graph := graph.add place
  let most := ends.foldl (fun most place => max most place.count) 0
  for _ in [0:tables.edges.size * (most + 1) * (ends.size + 1)] do
    match pending with
    | [] => break
    | place :: rest =>
      pending := rest
      for earlier in tables.before place do
        unless (graph.places? earlier.state earlier.count).contains earlier do
          graph := graph.add earlier
          pending := earlier :: pending
  return some graph

/-- The graph of a symbol, hidden or not. -/
def lookup (tables : ChildTables) (symbol : Nat) : Option ChildGraph :=
  match tables.hidden[symbol]? with
  | some graph => some graph
  | none => tables.graph? symbol

/-- Collects what the parse states of a language tell. -/
def ofLanguage (language : Language) : ChildTables := Id.run do
  let count := language.states.size
  let mut sources := Array.replicate count #[]
  let mut starts := Array.replicate language.symbols.size #[]
  let mut ends := Array.replicate language.symbols.size #[]
  for state in [1:count] do
    if let some parseState := language.states[state]? then
      for actions in parseState.actions do
        for action in actions do
          match action with
          | .reduce symbol childCount _ shape =>
            for kind in kindsOf language symbol do
              ends := addTo ends kind (·.state == state) ⟨state, childCount, shape, true⟩
          | .shift target _ =>
            if (sources[target]?.getD #[]).size < maxSources then
              sources := addTo sources target (· == state) state
          | _ => pure ()
      for rule in [0:parseState.gotos.size] do
        let target := parseState.gotos[rule]?.getD 0
        unless target == 0 do
          unless target == state || maxSources ≤ (sources[target]?.getD #[]).size do
            sources := addTo sources target (· == state) state
          if parseState.isPrimary then
            for kind in kindsOf language (language.tokenCount + rule) do
              starts := addTo starts kind (· == state) state
  let tables : ChildTables := {
    edges := (Array.range count).map (edgesOf language), sources, starts, ends }
  let mut hidden : Std.HashMap Nat ChildGraph := {}
  for symbol in [language.tokenCount:language.grammarSymbolCount] do
    unless (language.symbolInfo symbol).isVisible do
      if let some graph := tables.graph? symbol then
        hidden := hidden.insert symbol graph
  return { tables with hidden }

end ChildTables

end SyntaxExplorer.Query
