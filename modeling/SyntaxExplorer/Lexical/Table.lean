import SyntaxExplorer.Lexical.Automaton
import Std.Data.HashMap
/-!
Deterministic tables for reading tokens.  A state accepts at most one token and goes on by ranges of
characters; characters of separators are skipped.
-/

namespace SyntaxExplorer.Lexical

/-- What a state accepts. -/
inductive Accepted
  | endOfInput
  | token (index : Nat)
  deriving BEq, Repr, Inhabited

/-- Where a range of characters leads, and whether they separate tokens. -/
structure Move where
  low : Nat
  high : Nat
  target : Nat
  separator : Bool
  deriving Repr, Inhabited

structure LexState where
  accepted : Option Accepted := none
  /-- The state at the end of input, where that is a token. -/
  atEnd : Option Nat := none
  /-- Moves in ascending order. -/
  moves : Array Move := #[]
  deriving Repr, Inhabited

/-- The move on a character: the only one whose range holds it. -/
def LexState.move? (state : LexState) (character : Nat) : Option Move := Id.run do
  let mut low := 0
  let mut high := state.moves.size
  for _ in [0:state.moves.size] do
    if low < high then
      let middle := (low + high) / 2
      match state.moves[middle]? with
      | none => return none
      | some move =>
        if character < move.low then high := middle
        else if move.high < character then low := middle + 1
        else return some move
    else
      break
  return none

structure LexTable where
  states : Array LexState := #[]
  numbers : Std.HashMap (List Nat × Bool) Nat := {}
  /-- The sets of automaton states that table states stand for. -/
  sets : Array (List Nat × Bool) := #[]
  deriving Inhabited

namespace LexTable

/-- Finds or makes the state for some automaton states. -/
def addState (table : LexTable) (automaton : TokenAutomaton) (states : List Nat)
    (endIsToken : Bool) : LexTable × Nat :=
  let key := (automaton.close states, endIsToken)
  match table.numbers[key]? with
  | some number => (table, number)
  | none =>
    ({ states := table.states.push {}
       numbers := table.numbers.insert key table.states.size
       sets := table.sets.push key }, table.states.size)

/-- Fills in one state. -/
def populate (table : LexTable) (automaton : TokenAutomaton) (number : Nat) : LexTable := Id.run do
  let (closed, endIsToken) := table.sets[number]?.getD ([], false)
  let completion := automaton.preferredCompletion closed
  let readsSeparator := automaton.readsSeparator closed
  let mut table := table
  let mut atEnd : Option Nat := none
  if endIsToken then
    let (added, target) := table.addState automaton [] false
    table := added
    atEnd := some target
  let mut moves := #[]
  for transition in automaton.transitions closed do
    let follow := match completion with
      | some completed => automaton.prefersTransition transition completed readsSeparator
      | none => true
    if follow then
      let (added, target) :=
        table.addState automaton transition.states (endIsToken && transition.separator)
      table := added
      for range in transition.characters.ranges do
        moves := moves.push ⟨range.low, range.high, target, transition.separator⟩
  let accepted := match completion with
    | some (token, _) => some (.token token)
    | none => if closed.isEmpty then some .endOfInput else none
  let sorted := moves.qsort fun a b => a.low < b.low
  let lexState : LexState := { accepted, atEnd, moves := sorted }
  return { table with states := table.states.set! number lexState }

/-- Adds the state where some tokens may start, and all that follow from it. -/
def addStart (table : LexTable) (automaton : TokenAutomaton) (tokens : List Nat)
    (endIsToken : Bool) : LexTable × Nat := Id.run do
  let known := table.states.size
  let starts := tokens.map fun token => ((automaton.tokens[token]?).map (·.start)).getD 0
  let (added, start) := table.addState automaton starts endIsToken
  let mut table := added
  for number in [known:1000000] do
    if table.states.size ≤ number then
      break
    table := table.populate automaton number
  return (table, start)

end LexTable

end SyntaxExplorer.Lexical
