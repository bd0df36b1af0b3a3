import SyntaxExplorer.Grammar.Tokenized
import Std.Data.HashSet
/-!
The automaton of a grammar's tokens.  One nondeterministic automaton holds all tokens; a set of its
states stands for the tokens that may still match, and its transitions are grouped by character.
-/

namespace SyntaxExplorer.Lexical

open Grammar

/-- A state of the nondeterministic automaton. -/
inductive NfaState
  | advance (set : CharSet) (next : Nat) (precedence : Int) (separator : Bool)
  | split (left right : Nat)
  | accept (token : Nat) (precedence : Int)
  deriving Repr, Inhabited

/-- A token in the automaton: its rank among tokens of equal precedence, and where it starts. -/
structure TokenEntry where
  implicitPrecedence : Int
  start : Nat
  deriving Repr, Inhabited

structure TokenAutomaton where
  states : Array NfaState := #[]
  /-- The token each state belongs to. -/
  owners : Array Nat := #[]
  tokens : Array TokenEntry := #[]
  /-- The states that each state reaches without reading, ascending and without splits. -/
  closures : Array (List Nat) := #[]
  deriving Inhabited

/-- A set of characters on which a set of states goes on alike. -/
structure Transition where
  characters : CharSet
  states : List Nat
  precedence : Int
  separator : Bool
  deriving BEq, Repr, Inhabited

namespace TokenAutomaton

/-- Adds the states of a pattern that goes on at `next`, and gives the state where it starts. -/
def addPattern (precedence : Int) (separator : Bool) :
    Pattern → Nat → Array NfaState → Nat × Array NfaState
  | .empty, next, states => (next, states)
  | .one set, next, states => (states.size, states.push (.advance set next precedence separator))
  | .seq first second, next, states =>
    let (middle, states) := addPattern precedence separator second next states
    addPattern precedence separator first middle states
  | .either left right, next, states =>
    let (right, states) := addPattern precedence separator right next states
    let (left, states) := addPattern precedence separator left next states
    (states.size, states.push (.split left right))
  | .oneOrMore inner, next, states =>
    let fork := states.size
    let (start, states) := addPattern precedence separator inner fork
      (states.push (.split fork next))
    (start, states.set! fork (.split start next))

/-- Ascending insertion without repetition. -/
def insertSorted (state : Nat) : List Nat → List Nat
  | [] => [state]
  | first :: rest =>
    if state < first then state :: first :: rest
    else if state = first then first :: rest
    else first :: insertSorted state rest

/-- The union of two ascending lists. -/
def mergeSorted : List Nat → List Nat → List Nat
  | [], right => right
  | left, [] => left
  | a :: left, b :: right =>
    if a < b then a :: mergeSorted left (b :: right)
    else if b < a then b :: mergeSorted (a :: left) right
    else a :: mergeSorted left right
  termination_by left right => left.length + right.length

/-- The states without splits that `state` reaches without reading. -/
def closureOf (states : Array NfaState) (state : Nat) : List Nat := Id.run do
  let mut pending := [state]
  let mut seen : Std.HashSet Nat := {}
  let mut found := []
  for _ in [0:2 * states.size + 1] do
    match pending with
    | [] => break
    | first :: rest =>
      pending := rest
      unless seen.contains first do
        seen := seen.insert first
        match states[first]? with
        | some (.split left right) => pending := left :: right :: pending
        | some _ => found := insertSorted first found
        | none => pure ()
  return found

/-- How a token ranks among tokens of equal precedence: literals first, immediate ones above. -/
def implicitPrecedence (rule : TokenRule) : Int :=
  (if rule.literal.isSome then 2 else 0) + (if rule.immediate then 1 else 0)

/-- The automaton of all tokens of a grammar. -/
def ofTokens (tokens : Array NamedToken) (separators : List Pattern) : TokenAutomaton := Id.run do
  let mut states := #[]
  let mut owners := #[]
  let mut entries := #[]
  for index in [0:tokens.size] do
    let rule := tokens[index]!.rule
    let accept := states.size
    states := states.push (.accept index rule.precedence)
    let (start, added) := addPattern rule.precedence false rule.pattern accept states
    let (start, added) :=
      if rule.immediate || separators.isEmpty then (start, added)
      else
        addPattern 0 true (.many (.any separators)) start added
    states := added
    for _ in [owners.size:states.size] do
      owners := owners.push index
    entries := entries.push ⟨implicitPrecedence rule, start⟩
  let allStates := states
  return {
    states, owners, tokens := entries
    closures := (Array.range states.size).map (closureOf allStates) }

/-- All states that some states reach without reading. -/
def close (automaton : TokenAutomaton) (states : List Nat) : List Nat :=
  states.foldl (fun found state => mergeSorted found (automaton.closures[state]?.getD [])) []

/-- Whether closed states read separators. -/
def readsSeparator (automaton : TokenAutomaton) (closed : List Nat) : Bool :=
  closed.any fun state => automaton.states[state]? matches some (.advance _ _ _ true)

/-- The tokens that closed states complete, with their precedences. -/
def completions (automaton : TokenAutomaton) (closed : List Nat) : List (Nat × Int) :=
  closed.filterMap fun state => match automaton.states[state]? with
    | some (NfaState.accept token precedence) => some (token, precedence)
    | _ => none

/-- The tokens that some states belong to, without repeating neighbours. -/
def tokensOf (automaton : TokenAutomaton) (states : List Nat) : List Nat :=
  let rec go (previous : Option Nat) : List Nat → List Nat
    | [] => []
    | state :: rest =>
      let token := automaton.owners[state]?.getD 0
      if previous == some token then go previous rest else token :: go (some token) rest
  go none states

/-- Divides the transitions so that a new one meets none of them in part. -/
def splitInto (set : CharSet) (next : Nat) (precedence : Int) (separator : Bool) :
    List Transition → List Transition
  | [] =>
    if set.isEmpty then [] else [{ characters := set, states := [next], precedence, separator }]
  | first :: rest =>
    if set.isEmpty then first :: rest
    else
      let common := first.characters.intersection set
      if common.isEmpty then first :: splitInto set next precedence separator rest
      else
        let joined : Transition := {
          characters := common
          states := insertSorted next first.states
          precedence := max first.precedence precedence
          separator := first.separator && separator }
        let remaining := first.characters.difference set
        let rest := splitInto (set.difference common) next precedence separator rest
        if remaining.isEmpty then joined :: rest
        else joined :: { first with characters := remaining } :: rest

/-- Joins a transition to one that leads the same way. -/
def joinInto (transition : Transition) : List Transition → List Transition
  | [] => [transition]
  | first :: rest =>
    if first.states == transition.states && first.separator == transition.separator &&
        first.precedence == transition.precedence then
      { first with characters := first.characters.union transition.characters } :: rest
    else first :: joinInto transition rest

/-- The transitions of closed states, grouped by character. -/
def transitions (automaton : TokenAutomaton) (closed : List Nat) : List Transition :=
  let divided := closed.foldl
    (fun found state => match automaton.states[state]? with
      | some (.advance set next precedence separator) =>
        splitInto set next precedence separator found
      | _ => found)
    []
  divided.foldl (fun found transition => joinInto transition found) []

/-- Whether one completed token wins over another that ends at the same place. -/
def prefersToken (automaton : TokenAutomaton) (left right : Nat × Int) : Bool :=
  let rank (token : Nat) : Int := ((automaton.tokens[token]?).map (·.implicitPrecedence)).getD 0
  if left.2 = right.2 then
    if rank left.1 = rank right.1 then left.1 < right.1 else rank right.1 < rank left.1
  else right.2 < left.2

/-- Whether reading on wins over a completed token. -/
def prefersTransition (automaton : TokenAutomaton) (transition : Transition)
    (completed : Nat × Int) (readsSeparator : Bool) : Bool :=
  if transition.precedence < completed.2 then false
  else if transition.precedence = completed.2 then
    !transition.separator &&
      (!readsSeparator || (automaton.tokensOf transition.states).contains completed.1)
  else true

/-- The winner among completed tokens. -/
def preferredCompletion (automaton : TokenAutomaton) (closed : List Nat) : Option (Nat × Int) :=
  (automaton.completions closed).foldl
    (fun best candidate => match best with
      | some chosen => if automaton.prefersToken chosen candidate then best else some candidate
      | none => some candidate)
    none

/-- The characters that a token can start with, separators included. -/
def startingCharacters (automaton : TokenAutomaton) (token : Nat) : CharSet :=
  (automaton.close [((automaton.tokens[token]?).map (·.start)).getD 0]).foldl
    (fun found state => match automaton.states[state]? with
      | some (NfaState.advance set ..) => found.union set
      | _ => found)
    .empty

end TokenAutomaton

end SyntaxExplorer.Lexical
