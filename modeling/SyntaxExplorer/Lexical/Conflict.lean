import SyntaxExplorer.Lexical.Automaton
/-!
How tokens compete.  For two tokens, walking the automaton from both starts shows whether they match
the same texts, whether one may end where the other goes on, and which of them then wins.
-/

namespace SyntaxExplorer.Lexical

/-- What one token does to another when both may match. -/
structure Rivalry where
  /-- It ends, and wins, where the other would go on. -/
  matchesPrefix : Bool := false
  /-- It goes on, and wins, where the other has ended. -/
  continues : Bool := false
  /-- It goes on with a character that could also start what follows the other. -/
  continuesValidly : Bool := false
  /-- It ends within what may be a separator. -/
  matchesSeparators : Bool := false
  /-- It wins on a text that both match. -/
  matchesSame : Bool := false
  /-- It matches a text that the other does not. -/
  matchesDifferent : Bool := false
  deriving BEq, DecidableEq, Repr, Inhabited

/-- The rivalry of each token with each other. -/
structure Rivalries where
  count : Nat
  table : Array Rivalry
  deriving Inhabited

namespace Rivalries

/-- What both tokens of a pair do to each other, as found so far. -/
structure PairStatus where
  first : Rivalry := {}
  second : Rivalry := {}

/-- Changes the status of one of the two tokens. -/
def PairStatus.update (status : PairStatus) (isFirst : Bool) (change : Rivalry → Rivalry) :
    PairStatus :=
  if isFirst then { status with first := change status.first }
  else { status with second := change status.second }

/-- Records the tokens that are complete in a set of states, and gives the winner. -/
def compareCompletions (automaton : TokenAutomaton) (i : Nat) (closed : List Nat)
    (withinSeparator : Bool) (status : PairStatus) : PairStatus × Option (Nat × Int) :=
  (automaton.completions closed).foldl
    (fun (status, best) candidate =>
      let status := if withinSeparator then
        status.update (candidate.1 = i) ({ · with matchesSeparators := true }) else status
      match best with
      | none => (status, some candidate)
      | some chosen =>
        if chosen.1 = candidate.1 then (status, best)
        else if automaton.prefersToken chosen candidate then
          (status.update (chosen.1 = i) ({ · with matchesSame := true }), best)
        else
          (status.update (candidate.1 = i) ({ · with matchesSame := true }), some candidate))
    (status, none)

/-- Records what a transition means for a token that is complete, and whether to follow it. -/
def compareTransition (automaton : TokenAutomaton) (i j : Nat) (following : Nat → CharSet)
    (completed : Option (Nat × Int)) (withinSeparator : Bool) (transition : Transition)
    (status : PairStatus) : PairStatus × Bool :=
  match completed with
  | none => (status, true)
  | some done =>
    let live := automaton.tokensOf transition.states
    match (if live.contains done.1 then none else live.getLast?) with
    | none => (status, true)
    | some other =>
      if automaton.prefersTransition transition done withinSeparator then
        let rival := if other = i then j else i
        let valid := transition.characters.meets (following rival)
        (status.update (other = i) fun rivalry =>
          { rivalry with continues := true, continuesValidly := rivalry.continuesValidly || valid },
          true)
      else
        (status.update (done.1 = i) ({ · with matchesPrefix := true }), false)

/-- What tokens `i` and `j` do to each other. -/
def compare (automaton : TokenAutomaton) (following : Nat → CharSet) (i j : Nat) :
    PairStatus := Id.run do
  let start (token : Nat) : Nat := ((automaton.tokens[token]?).map (·.start)).getD 0
  let mut status : PairStatus := {}
  let mut pending := [TokenAutomaton.mergeSorted [start i] [start j]]
  let mut visited : Std.HashSet (List Nat) := {}
  for _ in [0:automaton.states.size * automaton.states.size + 1] do
    match pending with
    | [] => break
    | states :: rest =>
      pending := rest
      match automaton.tokensOf states with
      | [] => pure ()
      | [only] => status := status.update (only = i) ({ · with matchesDifferent := true })
      | _ =>
        let closed := automaton.close states
        let withinSeparator := automaton.readsSeparator closed
        let (found, completed) := compareCompletions automaton i closed withinSeparator status
        status := found
        for transition in automaton.transitions closed do
          let (found, advance) :=
            compareTransition automaton i j following completed withinSeparator transition status
          status := found
          if advance && !visited.contains transition.states then
            visited := visited.insert transition.states
            pending := transition.states :: pending
  return status

/-- Compares all tokens.  `following` gives the characters that may follow a token. -/
def ofAutomaton (automaton : TokenAutomaton) (following : Array CharSet) : Rivalries := Id.run do
  let count := automaton.tokens.size
  let mut table := Array.replicate (count * count) {}
  for i in [0:count] do
    for j in [0:i] do
      let status := compare automaton (fun token => following[token]?.getD .empty) i j
      table := (table.set! (i * count + j) status.first).set! (j * count + i) status.second
  return { count, table }

def get (rivalries : Rivalries) (i j : Nat) : Rivalry :=
  rivalries.table[i * rivalries.count + j]?.getD {}

/-- Whether `i` could be taken where `j` was meant. -/
def conflicts (rivalries : Rivalries) (i j : Nat) : Bool :=
  let rivalry := rivalries.get i j
  rivalry.continuesValidly || rivalry.matchesSeparators || rivalry.matchesSame

/-- Whether `i` and `j` can match overlapping texts so that `i` wins. -/
def overlaps (rivalries : Rivalries) (i j : Nat) : Bool :=
  let rivalry := rivalries.get i j
  rivalry.matchesSeparators || rivalry.matchesPrefix || rivalry.matchesSame || rivalry.continues

/-- Whether `i` wins with a text that is shorter or longer than that of `j`. -/
def shorterOrLonger (rivalries : Rivalries) (i j : Nat) : Bool :=
  let rivalry := rivalries.get i j
  (rivalry.continuesValidly || rivalry.matchesSeparators) &&
    !(rivalries.get j i).matchesSeparators

end Rivalries

end SyntaxExplorer.Lexical
