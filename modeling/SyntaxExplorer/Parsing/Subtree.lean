import SyntaxExplorer.Text.Extent
import SyntaxExplorer.Table.Language
/-!
The trees that parsing builds.  They hold every symbol that was recognised, hidden ones included, with
the space before each; positions are relative, so that a subtree stays valid wherever it stands.
-/

namespace SyntaxExplorer.Parsing

/-- The symbol of nodes that hold skipped text. -/
def errorSymbol : Nat := 65535

/-- The symbol of skipped text under construction. -/
def errorRepeatSymbol : Nat := 65534

/-- What each kind of fault costs; of several ways to read a text the cheapest is kept. -/
structure ErrorCosts where
  recovery : Nat := 500
  missingTree : Nat := 110
  skippedTree : Nat := 100
  skippedLine : Nat := 30
  skippedCharacter : Nat := 1

def errorCosts : ErrorCosts := {}

/-- Everything about a subtree but its children. -/
structure SubtreeFacts where
  symbol : Nat
  /-- The space before the subtree. -/
  padding : Extent := .zero
  size : Extent := .zero
  /-- How many bytes beyond its end were looked at. -/
  lookaheadBytes : Nat := 0
  errorCost : Nat := 0
  /-- The state in which the subtree was read; none where several were tried. -/
  state : Option Nat := none
  isVisible : Bool
  isNamed : Bool
  isExtra : Bool := false
  fragileLeft : Bool := false
  fragileRight : Bool := false
  hasChanges : Bool := false
  hasExternalTokens : Bool := false
  isMissing : Bool := false
  isKeyword : Bool := false
  visibleChildCount : Nat := 0
  namedChildCount : Nat := 0
  visibleDescendantCount : Nat := 0
  dynamicPrecedence : Int := 0
  /-- The depth of a repetition built by halves. -/
  repeatDepth : Nat := 0
  shape : Nat := 0
  firstLeafSymbol : Nat
  firstLeafState : Option Nat := none
  deriving Repr, Inhabited

inductive Subtree
  | mk (facts : SubtreeFacts) (children : List Subtree)
  deriving Inhabited

namespace Subtree

def facts : Subtree → SubtreeFacts
  | mk facts _ => facts

def children : Subtree → List Subtree
  | mk _ children => children

def symbol (tree : Subtree) : Nat := tree.facts.symbol

def isLeaf (tree : Subtree) : Bool := tree.children.isEmpty

def isError (tree : Subtree) : Bool := tree.symbol == errorSymbol

def isEnd (tree : Subtree) : Bool := tree.symbol == 0

def isExtra (tree : Subtree) : Bool := tree.facts.isExtra

def total (tree : Subtree) : Extent := tree.facts.padding + tree.facts.size

def isFragile (tree : Subtree) : Bool := tree.facts.fragileLeft || tree.facts.fragileRight

/-- What the faults in a subtree cost. -/
def errorCost (tree : Subtree) : Nat :=
  if tree.facts.isMissing then errorCosts.missingTree + errorCosts.recovery
  else tree.facts.errorCost

def dynamicPrecedence (tree : Subtree) : Int :=
  if tree.isLeaf then 0 else tree.facts.dynamicPrecedence

def visibleDescendantCount (tree : Subtree) : Nat :=
  if tree.isLeaf then 0 else tree.facts.visibleDescendantCount

def leafSymbol (tree : Subtree) : Nat :=
  if tree.isLeaf then tree.symbol else tree.facts.firstLeafSymbol

def leafState (tree : Subtree) : Option Nat :=
  if tree.isLeaf then tree.facts.state else tree.facts.firstLeafState

def update (change : SubtreeFacts → SubtreeFacts) : Subtree → Subtree
  | mk facts children => mk (change facts) children

end Subtree

end SyntaxExplorer.Parsing

namespace SyntaxExplorer.Language

open Parsing

/-- How a symbol shows, the symbols of errors included. -/
def symbolInfo (language : Language) (symbol : Nat) : SymbolInfo :=
  if symbol = errorSymbol then ⟨"ERROR", true, true, false⟩
  else if symbol = errorRepeatSymbol then ⟨"_ERROR", false, false, false⟩
  else language.symbols[symbol]?.getD default

/-- The symbol that stands for a symbol outside the parser. -/
def publicSymbol (language : Language) (symbol : Nat) : Nat :=
  if symbol = errorSymbol then symbol else language.publicSymbols[symbol]?.getD symbol

/-- The actions of a state on a token. -/
def actions (language : Language) (state symbol : Nat) : Array Table.Action :=
  match language.states[state]? with
  | some parseState => parseState.actions[symbol]?.getD #[]
  | none => #[]

/-- The state after a symbol; zero for none. -/
def nextState (language : Language) (state symbol : Nat) : Nat :=
  if symbol = errorSymbol ∨ symbol = errorRepeatSymbol then 0
  else if symbol < language.tokenCount then
    match (language.actions state symbol).back? with
    | some (.shift next _) => next
    | some .shiftExtra => state
    | _ => 0
  else
    match language.states[state]? with
    | some parseState => parseState.gotos[symbol - language.tokenCount]?.getD 0
    | none => 0

def mode (language : Language) (state : Nat) : LexMode :=
  ((language.states[state]?).map (·.mode)).getD default

/-- The words that are no identifiers in a state. -/
def reserved (language : Language) (state : Nat) : Table.TokenSet :=
  ((language.states[state]?).map (·.reserved)).getD .empty

def isReserved (language : Language) (state symbol : Nat) : Bool :=
  (language.reserved state).contains symbol

def isReusable (language : Language) (state symbol : Nat) : Bool :=
  ((language.states[state]?).map (·.reusable.contains symbol)).getD false

def shape (language : Language) (index : Nat) : ProductionShape :=
  language.shapes[index]?.getD ⟨#[], #[]⟩

/-- The alias that a production gives the child at an index; zero for none. -/
def aliasAt (language : Language) (shape index : Nat) : Nat :=
  (language.shape shape).aliases[index]?.getD 0

end SyntaxExplorer.Language

namespace SyntaxExplorer.Parsing.Subtree

/-- A token's subtree. -/
def leaf (language : Language) (symbol : Nat) (padding size : Extent) (lookaheadBytes state : Nat)
    (isExternal isKeyword : Bool) : Subtree :=
  let info := language.symbolInfo symbol
  .mk {
    symbol, padding, size, lookaheadBytes
    state := some state
    isVisible := info.isVisible
    isNamed := info.isNamed
    isExtra := symbol == 0
    hasExternalTokens := isExternal
    isKeyword
    firstLeafSymbol := symbol
    firstLeafState := some state } []

/-- Text that is no token. -/
def errorLeaf (language : Language) (padding size : Extent) (lookaheadBytes state : Nat) :
    Subtree :=
  (leaf language errorSymbol padding size lookaheadBytes state false false).update
    ({ · with fragileLeft := true, fragileRight := true })

/-- A token that was expected where another stands. -/
def missingLeaf (language : Language) (symbol : Nat) (padding : Extent) (lookaheadBytes : Nat) :
    Subtree :=
  (leaf language symbol padding .zero lookaheadBytes 0 false false).update
    ({ · with isMissing := true })

/-- Adds one child to what its parent sums up.  `index` counts the children that are no extras. -/
def addChild (language : Language) (isFirst : Bool) (facts : SubtreeFacts)
    (lookaheadEnd index : Nat) (child : Subtree) : SubtreeFacts × Nat × Nat :=
  let facts :=
    if isFirst then { facts with padding := child.facts.padding, size := child.facts.size }
    else { facts with size := facts.size + child.total }
  let lookaheadEnd := max lookaheadEnd
    (facts.padding.bytes + facts.size.bytes + child.facts.lookaheadBytes)
  let isErrorNode := facts.symbol == errorSymbol || facts.symbol == errorRepeatSymbol
  let childCost := if child.symbol == errorRepeatSymbol then 0 else child.errorCost
  let skipCost :=
    if isErrorNode && !child.isExtra && !(child.isError && child.isLeaf) then
      if child.facts.isVisible then errorCosts.skippedTree
      else if child.isLeaf then 0
      else errorCosts.skippedTree * child.facts.visibleChildCount
    else 0
  let shown := if child.isExtra then 0 else language.aliasAt facts.shape index
  let facts := { facts with
    errorCost := facts.errorCost + childCost + skipCost
    dynamicPrecedence := facts.dynamicPrecedence + child.dynamicPrecedence
    visibleDescendantCount := facts.visibleDescendantCount + child.visibleDescendantCount
    hasExternalTokens := facts.hasExternalTokens || child.facts.hasExternalTokens }
  let count (isNamed : Bool) : SubtreeFacts := { facts with
    visibleDescendantCount := facts.visibleDescendantCount + 1
    visibleChildCount := facts.visibleChildCount + 1
    namedChildCount := facts.namedChildCount + isNamed.toNat }
  let facts :=
    if shown ≠ 0 then count (language.symbolInfo shown).isNamed
    else if child.facts.isVisible then count child.facts.isNamed
    else if child.isLeaf then facts
    else { facts with
      visibleChildCount := facts.visibleChildCount + child.facts.visibleChildCount
      namedChildCount := facts.namedChildCount + child.facts.namedChildCount }
  let facts :=
    if child.isError then
      { facts with fragileLeft := true, fragileRight := true, state := none }
    else facts
  (facts, lookaheadEnd, if child.isExtra then index else index + 1)

/-- Sums up the children of a node. -/
def summarize (language : Language) (facts : SubtreeFacts) (children : List Subtree) :
    SubtreeFacts :=
  let fresh := { facts with
    errorCost := 0, visibleChildCount := 0, namedChildCount := 0, visibleDescendantCount := 0
    hasExternalTokens := false, dynamicPrecedence := 0, repeatDepth := 0
    padding := .zero, size := .zero }
  let (facts, lookaheadEnd, _, _) := children.foldl
    (fun (facts, lookaheadEnd, index, isFirst) child =>
      let (facts, lookaheadEnd, index) :=
        addChild language isFirst facts lookaheadEnd index child
      (facts, lookaheadEnd, index, false))
    (fresh, 0, 0, true)
  let isErrorNode := facts.symbol == errorSymbol || facts.symbol == errorRepeatSymbol
  let summed := { facts with
    lookaheadBytes := lookaheadEnd - facts.size.bytes - facts.padding.bytes
    errorCost :=
      if isErrorNode then
        facts.errorCost + errorCosts.recovery +
          errorCosts.skippedCharacter * facts.size.bytes +
          errorCosts.skippedLine * facts.size.point.row
      else facts.errorCost }
  match children, children.getLast? with
  | first :: rest, some last =>
    let depth (tree : Subtree) : Nat := if tree.isLeaf then 0 else tree.facts.repeatDepth
    let isRepeat :=
      !rest.isEmpty && !summed.isVisible && !summed.isNamed && first.symbol == summed.symbol
    { summed with
      firstLeafSymbol := first.leafSymbol
      firstLeafState := first.leafState
      fragileLeft := summed.fragileLeft || first.facts.fragileLeft
      fragileRight := summed.fragileRight || last.facts.fragileRight
      repeatDepth := if isRepeat then max (depth first) (depth last) + 1 else 0 }
  | _, _ => summed

/-- A node over some children. -/
def node (language : Language) (symbol : Nat) (children : List Subtree) (shape : Nat) : Subtree :=
  let info := language.symbolInfo symbol
  let fragile := symbol == errorSymbol || symbol == errorRepeatSymbol
  .mk (summarize language {
      symbol, shape
      isVisible := info.isVisible
      isNamed := info.isNamed
      fragileLeft := fragile
      fragileRight := fragile
      firstLeafSymbol := 0 } children) children

/-- A node over skipped text. -/
def errorNode (language : Language) (children : List Subtree) (isExtra : Bool) : Subtree :=
  (node language errorSymbol children 0).update ({ · with isExtra })

/-- Splits the extras at the end off some subtrees. -/
def splitTrailingExtras (trees : List Subtree) : List Subtree × List Subtree :=
  let reversed := trees.reverse
  ((reversed.dropWhile (·.isExtra)).reverse, (reversed.takeWhile (·.isExtra)).reverse)

mutual

/-- Compares subtrees by symbols and child counts, node by node. -/
def compareTrees : Subtree → Subtree → Ordering
  | .mk left leftChildren, .mk right rightChildren =>
    (compare left.symbol right.symbol).then <|
      (compare leftChildren.length rightChildren.length).then <|
        compareForests leftChildren rightChildren

def compareForests : List Subtree → List Subtree → Ordering
  | [], [] => .eq
  | [], _ :: _ => .lt
  | _ :: _, [] => .gt
  | left :: lefts, right :: rights =>
    (compareTrees left right).then (compareForests lefts rights)

end

end SyntaxExplorer.Parsing.Subtree
