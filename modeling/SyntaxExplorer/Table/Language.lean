import SyntaxExplorer.Table.Merging
import SyntaxExplorer.Lexical.Table
/-!
A language: all that reading and showing its trees needs.  Symbols have the numbers by which trees
name them: the end of input, tokens, external tokens, rules, and aliases that are no other symbol.
-/

namespace SyntaxExplorer

open Grammar Lexical Table

/-- How a symbol appears in trees. -/
structure SymbolInfo where
  name : String
  isVisible : Bool
  isNamed : Bool
  isSupertype : Bool
  deriving BEq, Repr, Inhabited

/-- A field of a child: directly its own, or inherited from below it. -/
structure FieldPlace where
  field : Nat
  child : Nat
  inherited : Bool
  deriving BEq, Repr, Inhabited

/-- The aliases and fields of a production's children. -/
structure ProductionShape where
  /-- The alias of each child; zero for none. -/
  aliases : Array Nat
  fields : Array FieldPlace
  deriving Repr, Inhabited

/-- How the tokens of a parse state are read: where the lexical table starts, and which external
tokens the scanner may give. -/
structure LexMode where
  start : Nat
  externals : TokenSet
  deriving BEq, Repr, Inhabited

/-- A parse state over final symbol numbers. -/
structure ParseState where
  actions : Array (Array Action)
  /-- The tokens that mean the same wherever they were read. -/
  reusable : TokenSet
  /-- Successors by the number of the rule's symbol, less the count of tokens. -/
  gotos : Array Nat
  mode : LexMode
  reserved : TokenSet
  /-- Whether no earlier state stands for the same places in productions. -/
  isPrimary : Bool
  deriving Inhabited

/-- A language without its scanner. -/
structure Language where
  name : String
  symbols : Array SymbolInfo
  /-- The symbol that stands for each symbol outside the parser. -/
  publicSymbols : Array Nat
  /-- Symbols below this are tokens. -/
  tokenCount : Nat
  /-- Symbols below this are grammar symbols, the rest aliases. -/
  grammarSymbolCount : Nat
  /-- Field names; the first stands for no field. -/
  fields : Array String
  shapes : Array ProductionShape
  states : Array ParseState
  lexTable : LexTable
  keywordStart : Nat
  word : Option Nat
  /-- The symbols of external tokens. -/
  externals : Array Nat
  /-- The kinds that each supertype may be, if the language records them. -/
  subtypes : Array (Nat × List Nat)
  /-- Aliases that some production gives a symbol. -/
  aliasesOf : Array (List Nat)
  deriving Inhabited

namespace Language

/-- How a rule's or token's kind shows. -/
def infoOfKind (name : String) (kind : NameKind) (isSupertype : Bool) : SymbolInfo where
  name
  isVisible := kind.isVisible
  isNamed := kind == .named || kind == .hidden
  isSupertype

/-- The numbers of symbols under construction. -/
structure Numbering where
  symbols : Array Symbol
  ids : Std.HashMap Symbol Nat
  infos : Array SymbolInfo
  publicIds : Array Nat
  tokenCount : Nat
  deriving Inhabited

/-- The symbols that the states of a parser use, in order: the end, the word token, the other tokens,
the external tokens, the rules. -/
def usedSymbols (grammar : SyntaxGrammar) (alphabet : Alphabet) (states : Array State) :
    Array Symbol := Id.run do
  let mut used := TokenSet.empty
  let mut rules := Array.replicate alphabet.rules false
  for state in states do
    used := used.union state.tokens
    for rule in [0:alphabet.rules] do
      unless state.gotos[rule]! == 0 do
        rules := rules.set! rule true
  let mut result := #[Symbol.endOfInput]
  if let some word := grammar.word then
    result := result.push (.token word)
  for token in [0:alphabet.tokens] do
    if used.contains (alphabet.number (.token token)) && grammar.word != some token then
      result := result.push (.token token)
  for external in [0:alphabet.externals] do
    if used.contains (alphabet.number (.external external)) then
      result := result.push (.external external)
  for rule in [0:alphabet.rules] do
    if rule == 0 || rules[rule]! then
      result := result.push (.rule rule)
  return result

/-- How a symbol appears, its default alias aside. -/
def plainInfo (tokens : Array NamedToken) (grammar : SyntaxGrammar) (symbol : Symbol) :
    SymbolInfo :=
  match symbol with
  | .endOfInput => ⟨"end", false, true, false⟩
  | .token index => match tokens[index]? with
    | some token => infoOfKind token.name token.kind false
    | none => default
  | .external index => match grammar.externals[index]? with
    | some external => infoOfKind external.name external.kind false
    | none => default
  | .rule index => match grammar.rules[index]? with
    | some rule => infoOfKind rule.name rule.kind (grammar.supertypes.contains symbol)
    | none => default

/-- How a symbol appears under an alias. -/
def aliasInfo (shown : Alias) : SymbolInfo := ⟨shown.name, true, shown.isNamed, false⟩

/-- The order in which symbols stand for each other: external tokens, tokens, rules. -/
def symbolBefore (alphabet : Alphabet) (left right : Symbol) : Bool :=
  alphabet.number left < alphabet.number right

/-- Numbers the used symbols, and finds for each the symbol that stands for it: one of the same name
and kind, preferably under its own name. -/
def numberSymbols (tokens : Array NamedToken) (grammar : SyntaxGrammar) (alphabet : Alphabet)
    (states : Array State) : Numbering := Id.run do
  let symbols := usedSymbols grammar alphabet states
  let mut ids : Std.HashMap Symbol Nat := {}
  for id in [0:symbols.size] do
    ids := ids.insert symbols[id]! id
  let allIds := ids
  let plain := symbols.map (plainInfo tokens grammar)
  let infos := symbols.map fun symbol => match grammar.defaultAliases[symbol]? with
    | some shown =>
      { aliasInfo shown with isSupertype := (plainInfo tokens grammar symbol).isSupertype }
    | none => plainInfo tokens grammar symbol
  let mut publicIds := #[]
  for id in [0:symbols.size] do
    let symbol := symbols[id]!
    let mut mapped := symbol
    match grammar.defaultAliases[symbol]? with
    | some shown =>
      for otherId in [0:symbols.size] do
        let other := symbols[otherId]!
        match grammar.defaultAliases[other]? with
        | some otherShown =>
          if symbolBefore alphabet other mapped && otherShown == shown then
            mapped := other
        | none =>
          let info := plain[otherId]!
          if info.name == shown.name && info.isVisible && info.isNamed == shown.isNamed then
            mapped := other
            break
    | none =>
      if symbol matches .token _ then
        for otherId in [0:symbols.size] do
          if plain[otherId]! == plain[id]! then
            if otherId < id && symbols[publicIds[otherId]?.getD 0]! == symbol then
              break
            mapped := symbols[otherId]!
            break
    publicIds := publicIds.push (allIds.getD mapped 0)
  return {
    symbols, ids := allIds, infos, publicIds
    tokenCount := (symbols.filter fun symbol => !(symbol matches .rule _)).size }

/-- The aliases of productions that are no symbol of the grammar, in order. -/
def newAliases (numbering : Numbering) (shapes : Array Shape) : Array Alias :=
  let isKnown (shown : Alias) : Bool := numbering.infos.any fun info =>
    info.name == shown.name && info.isVisible && info.isNamed == shown.isNamed
  let all := shapes.foldl
    (fun (found : List Alias) shape => shape.aliases.foldl
      (fun found shown? => match shown? with
        | some shown => if isKnown shown || found.contains shown then found else shown :: found
        | none => found) found) []
  (all.mergeSort fun a b => compareAlias a b != .gt).toArray

/-- The kinds of the children that a supertype stands for. -/
def subtypesOf (grammar : SyntaxGrammar) (idOf : Symbol → Nat) (aliasId : Alias → Nat) :
    Nat → Symbol → List Nat
  | 0, _ => []
  | depth + 1, symbol =>
    match symbol with
    | .rule index =>
      let rule := grammar.rules[index]?.getD default
      rule.productions.toList.flatMap fun production =>
        production.steps.toList.flatMap fun step =>
          match step.shownAs, grammar.defaultAliases[step.symbol]? with
          | some shown, _ => [aliasId shown]
          | none, some shown => [aliasId shown]
          | none, none =>
            match step.symbol with
            | .rule child =>
              let kind := (grammar.rules[child]?.getD default).kind
              if kind.isVisible || grammar.supertypes.contains step.symbol then
                [idOf step.symbol]
              else subtypesOf grammar idOf aliasId depth step.symbol
            | _ => [idOf step.symbol]
    | _ => []

/-- Two sets of tokens can share one lexical state when no token of one disturbs the other's. -/
structure LexGroups where
  disturbing : Array TokenSet
  groups : Array TokenSet := #[]
  deriving Inhabited

/-- Finds a group that can take a set of tokens, or makes one. -/
def LexGroups.add (groups : LexGroups) (tokens : TokenSet) (bound : Nat) : LexGroups × Nat :=
  let fits (group : TokenSet) : Bool :=
    let extra := tokens.difference group
    let missing := group.difference tokens
    (List.range bound).all fun number =>
      (!extra.contains number || !(groups.disturbing[number]?.getD .empty).meets group) &&
        (!missing.contains number || !(groups.disturbing[number]?.getD .empty).meets tokens)
  match groups.groups.findIdx? fits with
  | some index =>
    ({ groups with groups := groups.groups.modify index (·.union tokens) }, index)
  | none => ({ groups with groups := groups.groups.push tokens }, groups.groups.size)

/-- For each token, the tokens that cannot be read where it may also be read. -/
def disturbances (lookahead : Lookahead) : Array TokenSet :=
  let alphabet := lookahead.alphabet
  let all := List.range alphabet.tokens
  (Array.range alphabet.terminals).map fun number =>
    match alphabet.token? number with
    | none => .empty
    | some i => TokenSet.ofList <| (all.filter fun other =>
        lookahead.rivalries.conflicts i other ||
        (lookahead.rivalries.get i other).matchesPrefix ||
        (!lookahead.coincide i other &&
          (lookahead.rivalries.overlaps other i || lookahead.rivalries.overlaps i other))).map
        fun other => alphabet.number (.token other)

/-- Builds a language from its grammar.  `recordsSubtypes` tells whether queries may ask which kinds
a supertype stands for. -/
def ofGrammar (source : Definition) (recordsSubtypes : Bool) : Language := Id.run do
  let tokenized := Tokenized.ofGrammar source
  let grammar := SyntaxGrammar.ofTokenized tokenized
  let items := ItemTable.ofGrammar grammar tokenized.tokens.size
  let alphabet := items.alphabet
  let expansions := Expansions.ofItems grammar items
  let parser := Automaton.ofGrammar grammar items expansions
  let tokens := TokenAutomaton.ofTokens tokenized.tokens tokenized.separators
  let lookahead := Lookahead.ofAutomaton grammar items expansions tokens parser
  let unmerged := parser.states.modify 0 (lookahead.errorState grammar)
  let obstacles := Merging.Obstacles.ofLookahead grammar lookahead
  let numberOfToken (token : Nat) : Nat := alphabet.number (.token token)
  let reservedSets := grammar.reserved.map fun words => TokenSet.ofList (words.map numberOfToken)
  let states := Merging.arrange <| Merging.skipUnits grammar <|
    Merging.merge obstacles reservedSets parser.cores.size unmerged
  -- Symbol numbers.
  let numbering := numberSymbols tokenized.tokens grammar alphabet unmerged
  let fresh := newAliases numbering items.shapes
  let idOf (symbol : Symbol) : Nat := numbering.ids.getD symbol 0
  let idOfNumber (number : Nat) : Nat := idOf (alphabet.symbol number)
  let idsOf (set : TokenSet) : TokenSet :=
    TokenSet.ofList ((set.below alphabet.terminals).map idOfNumber)
  let aliasId (shown : Alias) : Nat :=
    match numbering.infos.findIdx? fun info =>
      info.name == shown.name && info.isVisible && info.isNamed == shown.isNamed with
    | some id => numbering.publicIds[id]?.getD 0
    | none => numbering.symbols.size + (fresh.findIdx? (· == shown)).getD 0
  -- Fields and shapes.
  let fieldNames := (items.shapes.foldl
    (fun (found : List String) shape => shape.fields.foldl
      (fun found (name, _) => if found.contains name then found else name :: found) found)
    []).mergeSort (· ≤ ·)
  let fieldId (name : String) : Nat := (fieldNames.findIdx? (· == name)).getD 0 + 1
  let shapes := items.shapes.map fun shape =>
    { aliases := shape.aliases.map fun shown? => (shown?.map aliasId).getD 0
      fields := (shape.fields.flatMap fun (name, places) =>
        places.map fun (child, inherited) => ⟨fieldId name, child, inherited⟩).toArray :
      ProductionShape }
  -- Lexical modes.
  let mut groups : LexGroups := { disturbing := disturbances lookahead }
  let mut groupOf := #[]
  for (state, reserved) in states do
    let named := (state.tokens.union reserved).below alphabet.terminals
    let set := TokenSet.ofList (named.filterMap fun number =>
      if number < alphabet.externals then none
      else if lookahead.keywords.contains number then lookahead.word
      else some number)
    let (added, index) := groups.add set alphabet.terminals
    groups := added
    groupOf := groupOf.push index
  let mut lexTable : LexTable := {}
  let mut starts := #[]
  for group in groups.groups do
    let members := (group.below alphabet.terminals).filterMap alphabet.token?
    let (added, start) := lexTable.addStart tokens members
      (group.contains (alphabet.number .endOfInput))
    lexTable := added
    starts := starts.push start
  let (added, keywordStart) := lexTable.addStart tokens
    ((lookahead.keywords.below alphabet.terminals).filterMap alphabet.token?) false
  lexTable := added
  let finalLexTable := { lexTable with
    states := lexTable.states.map fun state => { state with
      accepted := state.accepted.map fun
        | .token token => .token (idOf (.token token))
        | .endOfInput => .endOfInput } }
  -- States over final numbers.
  let internalOf : List (Nat × Nat) := (List.range alphabet.externals).filterMap fun external =>
    ((grammar.externals[external]?).bind (·.internal)).map fun token =>
      (numberOfToken token, external)
  let overlapping := (Array.range alphabet.terminals).map fun number =>
    match alphabet.token? number with
    | none => TokenSet.empty
    | some token => TokenSet.ofList <| ((List.range alphabet.tokens).filter fun other =>
        lookahead.rivalries.overlaps other token).map numberOfToken
  let finalAction : Action → Action
    | .reduce rule count precedence shape => .reduce (idOf (.rule rule)) count precedence shape
    | action => action
  let ruleCount := numbering.symbols.size - numbering.tokenCount
  let mut parseStates := #[]
  let mut knownCores : Std.HashMap Nat Unit := {}
  for index in [0:states.size] do
    let (state, reserved) := states[index]!
    let isPrimary := !knownCores.contains state.core
    knownCores := knownCores.insert state.core ()
    let valid := state.tokens
    let mut actions := Array.replicate numbering.tokenCount #[]
    let mut reusable := TokenSet.empty
    let mut externals := TokenSet.empty
    for number in valid.below alphabet.terminals do
      let id := idOfNumber number
      actions := actions.set! id (state.actions[number]!.map finalAction)
      unless index == 0 || (overlapping[number]!).meets valid do
        reusable := reusable.insert id
      if number < alphabet.externals then
        externals := externals.insert number
      for (internal, external) in internalOf do
        if internal == number then
          externals := externals.insert external
    let mut gotos := Array.replicate ruleCount 0
    for rule in [0:alphabet.rules] do
      let target := state.gotos[rule]!
      unless target == 0 do
        gotos := gotos.set! (idOf (.rule rule) - numbering.tokenCount) target
    parseStates := parseStates.push {
      actions, reusable, gotos
      mode := ⟨starts[groupOf[index]!]!, externals⟩
      reserved := idsOf reserved
      isPrimary : ParseState }
  let mut aliasesOf : Array (List Nat) :=
    Array.replicate (numbering.symbols.size + fresh.size) []
  for rule in grammar.rules do
    for production in rule.productions do
      for step in production.steps do
        if let some shown := step.shownAs then
          let id := aliasId shown
          aliasesOf := aliasesOf.modify (idOf step.symbol) fun known =>
            if known.contains id then known else known ++ [id]
  let finalAliases := aliasesOf
  let finalStates := parseStates
  return {
    name := source.name
    symbols := numbering.infos ++ fresh.map aliasInfo
    publicSymbols := numbering.publicIds ++
      (Array.range fresh.size).map (numbering.symbols.size + ·)
    tokenCount := numbering.tokenCount
    grammarSymbolCount := numbering.symbols.size
    fields := #[""] ++ fieldNames.toArray
    shapes
    states := finalStates
    lexTable := finalLexTable
    keywordStart
    word := grammar.word.map fun token => idOf (.token token)
    externals := (Array.range alphabet.externals).map fun external =>
      match (grammar.externals[external]?).bind (·.internal) with
      | some token => idOf (.token token)
      | none => idOf (.external external)
    subtypes := if recordsSubtypes then
        (grammar.supertypes.map fun symbol =>
          (idOf symbol, (subtypesOf grammar idOf aliasId 64 symbol).eraseDups)).toArray
      else #[]
    aliasesOf := finalAliases }

end Language

end SyntaxExplorer
