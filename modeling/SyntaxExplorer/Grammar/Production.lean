import SyntaxExplorer.Grammar.Tokenized
/-!
Productions: the flat alternatives of each rule.  A repetition becomes a helper rule of its own whose
trees split in two, and a step carries the precedence, alias and field that hold at its place.
-/

namespace SyntaxExplorer.Grammar

/-- One symbol of a production. -/
structure Step where
  symbol : Symbol
  precedence : Precedence := .none
  associativity : Option Associativity := none
  shownAs : Option Alias := none
  field : Option String := none
  /-- The reserved words that hold where this step is expected. -/
  reserved : Nat := 0
  deriving BEq, DecidableEq, Hashable, Repr, Inhabited

structure Production where
  steps : Array Step := #[]
  dynamicPrecedence : Int := 0
  deriving BEq, DecidableEq, Hashable, Repr, Inhabited

/-- A rule with all its productions. -/
structure SyntaxRule where
  name : String
  kind : NameKind
  productions : Array Production
  deriving Repr, Inhabited

/-- A grammar over productions. -/
structure SyntaxGrammar where
  rules : Array SyntaxRule
  externals : Array ExternalToken
  extras : List Symbol
  conflicts : List (List Symbol)
  orderings : List (List Rank)
  supertypes : List Symbol
  inlined : List Symbol
  word : Option Nat
  /-- The tokens of each set of reserved words. -/
  reserved : Array (List Nat)
  /-- The aliases of symbols that never appear under their own name. -/
  defaultAliases : Std.HashMap Symbol Alias

/-- Helper rules made so far for repetitions. -/
structure Repetitions where
  firstIndex : Nat
  rules : Array NamedRule := #[]
  known : Std.HashMap (Rule Symbol) Symbol := {}

namespace Repetitions

/-- The two ways to build a repetition: from two repetitions, or from one item. -/
def binaryTree (symbol : Symbol) (item : Rule Symbol) : Rule Symbol :=
  .choice (.seq (.symbol symbol) (.symbol symbol)) item

/-- Replaces repetitions in a rule by helper rules, equal repetitions by the same one.  `count` is
the number of helpers already named after the rule. -/
def expand (ruleName : String) :
    Rule Symbol → Repetitions × Nat → Rule Symbol × Repetitions × Nat
  | .blank, state => (.blank, state)
  | .symbol name, state => (.symbol name, state)
  | .token token, state => (.token token, state)
  | .seq first second, state =>
    let (first, state) := expand ruleName first state
    let (second, state) := expand ruleName second state
    (.seq first second, state)
  | .choice left right, state =>
    let (left, state) := expand ruleName left state
    let (right, state) := expand ruleName right state
    (.choice left right, state)
  | .field name inner, state =>
    let (inner, state) := expand ruleName inner state
    (.field name inner, state)
  | .shownAs name inner, state =>
    let (inner, state) := expand ruleName inner state
    (.shownAs name inner, state)
  | .ranked precedence associativity inner, state =>
    let (inner, state) := expand ruleName inner state
    (.ranked precedence associativity inner, state)
  | .dynamic value inner, state =>
    let (inner, state) := expand ruleName inner state
    (.dynamic value inner, state)
  | .reserving context inner, state =>
    let (inner, state) := expand ruleName inner state
    (.reserving context inner, state)
  | .repeat1 inner, state =>
    let (inner, made, count) := expand ruleName inner state
    match made.known[inner]? with
    | some symbol => (.symbol symbol, made, count)
    | none =>
      let symbol := Symbol.rule (made.firstIndex + made.rules.size)
      let helper : NamedRule :=
        ⟨s!"{ruleName}_repeat{count + 1}", .auxiliary, binaryTree symbol inner⟩
      (.symbol symbol,
        { made with rules := made.rules.push helper, known := made.known.insert inner symbol },
        count + 1)

/-- Replaces the repetitions of all rules.  A hidden rule that is a repetition becomes a helper
itself. -/
def expandAll (rules : Array NamedRule) : Array NamedRule := Id.run do
  let mut made : Repetitions := { firstIndex := rules.size }
  let mut result := #[]
  for index in [0:rules.size] do
    let named := rules[index]!
    match named.kind, named.rule with
    | .hidden, .repeat1 inner =>
      let (inner, state, _) := expand named.name inner (made, 0)
      made := state
      result := result.push
        { named with kind := .auxiliary, rule := binaryTree (.rule index) inner }
    | _, rule =>
      let (rule, state, _) := expand named.name rule (made, 0)
      made := state
      result := result.push { named with rule }
  return result ++ made.rules

end Repetitions

namespace Production

/-- The rules without choices that a rule stands for. -/
def alternatives : Rule Symbol → List (Rule Symbol)
  | .choice left right => alternatives left ++ alternatives right
  | .seq first second =>
    let seconds := alternatives second
    (alternatives first).flatMap fun first => seconds.map fun second => .seq first second
  | .field name inner => (alternatives inner).map (.field name)
  | .shownAs name inner => (alternatives inner).map (.shownAs name)
  | .ranked precedence associativity inner =>
    (alternatives inner).map (.ranked precedence associativity)
  | .dynamic value inner => (alternatives inner).map (.dynamic value)
  | .reserving context inner => (alternatives inner).map (.reserving context)
  | rule => [rule]

/-- Steps appended so far, and whether the last rule appended any. -/
structure Flattening where
  production : Production := {}
  pushed : Bool := false

/-- Puts `change` on the last step when the rule just left had steps and is not at the end: there
the surrounding rule's precedence holds again. -/
def Flattening.leave (state : Flattening) (atEnd : Bool) (change : Step → Step) : Flattening :=
  if state.pushed && !atEnd then
    let steps := state.production.steps
    { state with production.steps := steps.modify (steps.size - 1) change }
  else state

/-- Appends the steps of a rule without choices.  `context` holds what surrounding rules say. -/
def flatten (reservedSet : String → Nat) (context : Step) :
    Rule Symbol → Bool → Production → Flattening
  | .blank, _, production => { production }
  | .token _, _, production => { production }
  | .repeat1 _, _, production => { production }
  | .symbol symbol, _, production =>
    { production.steps := production.steps.push { context with symbol }
      production.dynamicPrecedence := production.dynamicPrecedence
      pushed := true }
  | .seq first second, atEnd, production =>
    let one := flatten reservedSet context first false production
    let two := flatten reservedSet context second atEnd one.production
    { two with pushed := one.pushed || two.pushed }
  | .choice left _, atEnd, production => flatten reservedSet context left atEnd production
  | .field name inner, atEnd, production =>
    flatten reservedSet { context with field := some name } inner atEnd production
  | .shownAs name inner, atEnd, production =>
    flatten reservedSet { context with shownAs := some name } inner atEnd production
  | .ranked precedence associativity inner, atEnd, production =>
    let within := match associativity with
      | none => { context with precedence }
      | some _ => { context with precedence, associativity }
    (flatten reservedSet within inner atEnd production).leave atEnd fun step =>
      match associativity with
      | none => { step with precedence := context.precedence }
      | some _ =>
        { step with precedence := context.precedence, associativity := context.associativity }
  | .dynamic value inner, atEnd, production =>
    let production :=
      if production.dynamicPrecedence.natAbs < value.natAbs then
        { production with dynamicPrecedence := value }
      else production
    flatten reservedSet context inner atEnd production
  | .reserving name inner, atEnd, production =>
    flatten reservedSet { context with reserved := reservedSet name } inner atEnd production

/-- The distinct productions of a rule. -/
def ofRule (reservedSet : String → Nat) (rule : Rule Symbol) : Array Production :=
  (alternatives rule).foldl
    (fun found rule =>
      let production := (flatten reservedSet { symbol := .endOfInput } rule true {}).production
      if found.contains production then found else found.push production)
    #[]

end Production

/-- How a symbol is used: under which aliases, how often each, and whether also under none. -/
structure AliasUse where
  aliases : Array (Alias × Nat) := #[]
  unaliased : Bool := false
  deriving Inhabited

/-- Counts one use of a symbol. -/
def AliasUse.add (usage : AliasUse) : Option Alias → AliasUse
  | none => { usage with unaliased := true }
  | some shown =>
    match usage.aliases.findIdx? (·.1 == shown) with
    | some index => { usage with aliases := usage.aliases.modify index fun (a, n) => (a, n + 1) }
    | none => { usage with aliases := usage.aliases.push (shown, 1) }

/-- The most frequent alias of a symbol that always has one; of equals, the first. -/
def AliasUse.default? (usage : AliasUse) : Option Alias :=
  if usage.unaliased then none
  else
    (usage.aliases.foldl
      (fun best candidate => match best with
        | none => some candidate
        | some chosen => if chosen.2 < candidate.2 then some candidate else best)
      none).map (·.1)

namespace SyntaxGrammar

/-- Gathers the aliases of symbols that never appear under their own name, and takes them off the
steps that need not say them. -/
def withDefaultAliases (grammar : SyntaxGrammar) : SyntaxGrammar := Id.run do
  let mut uses : Std.HashMap Symbol AliasUse := {}
  for rule in grammar.rules do
    for production in rule.productions do
      for step in production.steps do
        unless grammar.inlined.contains step.symbol do
          uses := uses.insert step.symbol ((uses.getD step.symbol {}).add step.shownAs)
  for symbol in grammar.extras do
    uses := uses.insert symbol ((uses.getD symbol {}).add none)
  let defaults := uses.filterMap fun _ usage => usage.default?
  let isDefault (step : Step) : Bool :=
    step.shownAs.isSome && defaults[step.symbol]? == step.shownAs
  let mut rules := #[]
  for rule in grammar.rules do
    let mut productions := #[]
    for index in [0:rule.productions.size] do
      let production := rule.productions[index]!
      let mut steps := #[]
      for position in [0:production.steps.size] do
        let step := production.steps[position]!
        let mut clear := isDefault step
        if clear then
          -- Another production may need the alias at this position.
          for otherIndex in [0:rule.productions.size] do
            if otherIndex != index then
              if let some other := rule.productions[otherIndex]!.steps[position]? then
                if other.shownAs == step.shownAs && !isDefault other then
                  clear := false
        steps := steps.push (if clear then { step with shownAs := none } else step)
      productions := productions.push { production with steps }
    rules := rules.push { rule with productions }
  return { grammar with rules, defaultAliases := defaults }

/-- The productions of a grammar. -/
def ofTokenized (grammar : Tokenized) : SyntaxGrammar :=
  let reservedSet (name : String) : Nat := (grammar.reserved.findIdx? (·.1 == name)).getD 0
  withDefaultAliases {
    rules := (Repetitions.expandAll grammar.rules).map fun rule =>
      ⟨rule.name, rule.kind, Production.ofRule reservedSet rule.rule⟩
    externals := grammar.externals
    extras := grammar.extras
    conflicts := grammar.conflicts
    orderings := grammar.orderings
    supertypes := grammar.supertypes
    inlined := grammar.inlined
    word := grammar.word
    reserved := if grammar.reserved.isEmpty then #[[]] else grammar.reserved.map (·.2)
    defaultAliases := {} }

end SyntaxGrammar

end SyntaxExplorer.Grammar
