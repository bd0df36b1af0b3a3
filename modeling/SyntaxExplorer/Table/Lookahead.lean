import SyntaxExplorer.Table.Automaton
import SyntaxExplorer.Lexical.Conflict
/-!
What the tokens of a grammar mean to each other in its parser: which tokens occur together, which are
keywords, and which the error state can take.
-/

namespace SyntaxExplorer.Table

open Grammar Lexical

namespace TokenSet

def intersection (left right : TokenSet) : TokenSet := ⟨left.bits &&& right.bits⟩

def difference (left right : TokenSet) : TokenSet :=
  ⟨left.bits ^^^ (left.bits &&& right.bits)⟩

def meets (left right : TokenSet) : Bool := !(left.intersection right).isEmpty

end TokenSet

/-- The tokens on which a state acts. -/
def State.tokens (state : State) : TokenSet :=
  TokenSet.ofList ((List.range state.actions.size).filter fun token =>
    !(state.actions[token]?.getD #[]).isEmpty)

/-- The knowledge about tokens that shapes the final table. -/
structure Lookahead where
  alphabet : Alphabet
  rivalries : Rivalries
  /-- For each token, the tokens that some state acts on together with it. -/
  together : Array TokenSet
  keywords : TokenSet
  word : Option Nat
  deriving Inhabited

namespace Lookahead

/-- The characters that may follow each token, from the tokens that may. -/
def followingCharacters (grammar : SyntaxGrammar) (table : ItemTable) (expansions : Expansions)
    (automaton : TokenAutomaton) : Array CharSet := Id.run do
  let alphabet := table.alphabet
  let count := alphabet.tokens
  let tokenMask : TokenSet := ⟨((1 <<< count) - 1) <<< (alphabet.externals + 1)⟩
  let mut following := Array.replicate count TokenSet.empty
  for facts in table.items do
    if let (some next, some after) := (facts.next, facts.afterNext) then
      let starts := (expansions.first[after]!).intersection tokenMask
      let ends := expansions.last[next]!
      for token in [0:count] do
        if ends.contains (alphabet.number (.token token)) then
          following := following.modify token (·.union starts)
  for extra in grammar.extras do
    if let .token token := extra then
      following := following.map (·.insert (alphabet.number extra))
      following := following.set! token tokenMask
  let starting := (Array.range count).map automaton.startingCharacters
  return following.map fun tokens => (List.range count).foldl
    (fun found token =>
      if tokens.contains (alphabet.number (.token token)) then
        found.union (starting[token]?.getD .empty)
      else found)
    .empty

/-- Letters and the underscore, which start keywords. -/
def wordStart : CharSet :=
  .ofRanges [('A'.toNat, 'Z'.toNat), ('_'.toNat, '_'.toNat), ('a'.toNat, 'z'.toNat)]

/-- Whether a token's texts start with letters only. -/
def startsLikeWord (automaton : TokenAutomaton) (token : Nat) : Bool :=
  (automaton.close [((automaton.tokens[token]?).map (·.start)).getD 0]).all fun state =>
    match automaton.states[state]? with
    | some (NfaState.advance set _ _ false) => (set.difference wordStart).isEmpty
    | _ => true

/-- Gathers what the states of a parser tell about tokens. -/
def ofAutomaton (grammar : SyntaxGrammar) (table : ItemTable) (expansions : Expansions)
    (tokens : TokenAutomaton) (parser : Automaton) : Lookahead := Id.run do
  let alphabet := table.alphabet
  let count := alphabet.tokens
  let rivalries := Rivalries.ofAutomaton tokens
    (followingCharacters grammar table expansions tokens)
  let wordNumber := grammar.word.map fun token => alphabet.number (.token token)
  let mut together := Array.replicate alphabet.terminals TokenSet.empty
  let mut withoutWord := Array.replicate alphabet.terminals TokenSet.empty
  for state in parser.states do
    let set := state.tokens
    let hasWord := match wordNumber with
      | some number => set.contains number
      | none => false
    for token in [0:alphabet.terminals] do
      if set.contains token then
        together := together.modify token (·.union set)
        unless hasWord do
          withoutWord := withoutWord.modify token (·.union set)
  let mut keywords := TokenSet.empty
  if let some word := grammar.word then
    let candidates := (List.range count).filter fun token =>
      startsLikeWord tokens token && (rivalries.get token word).matchesSame &&
        !(rivalries.get token word).matchesDifferent
    let unshadowed := candidates.filter fun token => candidates.all fun other =>
      other == token || !(rivalries.get other token).matchesSame
    let others := (List.range count).filter fun token => !candidates.contains token
    let apart := withoutWord
    let kept := unshadowed.filter fun token => others.all fun other =>
      !((apart[alphabet.number (.token token)]?.getD .empty).contains
        (alphabet.number (.token other))) ||
        rivalries.get token other == rivalries.get word other
    keywords := TokenSet.ofList (kept.map fun token => alphabet.number (.token token))
  return { alphabet, rivalries, together, keywords, word := wordNumber }

/-- Whether some state acts on both tokens. -/
def coincide (lookahead : Lookahead) (i j : Nat) : Bool :=
  (lookahead.together[lookahead.alphabet.number (.token i)]?.getD .empty).contains
    (lookahead.alphabet.number (.token j))

/-- The tokens that the error state takes: all but those that could be taken for a token that is
free of such conflicts. -/
def recoverable (lookahead : Lookahead) : List Nat :=
  let count := lookahead.alphabet.tokens
  let all := List.range count
  let free := all.filter fun i => all.all fun j =>
    i == j || lookahead.coincide i j || !lookahead.rivalries.shorterOrLonger i j
  all.filter fun i =>
    let number := lookahead.alphabet.number (.token i)
    free.contains i || lookahead.keywords.contains number || lookahead.word == some number ||
      free.all fun t => lookahead.coincide i t || !lookahead.rivalries.conflicts i t

/-- The error state: it takes tokens to recover with, and extras as ever. -/
def errorState (grammar : SyntaxGrammar) (lookahead : Lookahead) (state : State) : State :=
  let alphabet := lookahead.alphabet
  let tokens := lookahead.recoverable.map fun token => alphabet.number (.token token)
  let externals := (List.range alphabet.externals).filter fun index =>
    ((grammar.externals[index]?).bind (·.internal)).isNone
  let addTo (actions : Array (Array Action)) (number : Nat) : Array (Array Action) :=
    if (actions[number]?.getD #[]).isEmpty then actions.set! number #[.recover] else actions
  { state with
    actions := ((tokens ++ externals).foldl addTo state.actions).set!
      (alphabet.number .endOfInput) #[.recover] }

end Lookahead

end SyntaxExplorer.Table
