import SyntaxExplorer.Grammar.Rule
import Std.Data.HashMap
/-!
Grammars whose tokens are told apart from their rules.  Every distinct token gets a number in the
order of its first use; a rule that is nothing but a token of its own gives its name to the token.
-/

namespace SyntaxExplorer.Grammar

/-- What a rule may refer to. -/
inductive Symbol
  | external (index : Nat)
  | endOfInput
  | token (index : Nat)
  | rule (index : Nat)
  deriving BEq, DecidableEq, Hashable, Repr, Inhabited

/-- How a symbol appears in trees: not at all, as a helper of a repetition, or as a node whose name
is a text or a word of the grammar. -/
inductive NameKind
  | hidden
  | auxiliary
  | anonymous
  | named
  deriving BEq, DecidableEq, Hashable, Repr, Inhabited

def NameKind.isVisible (kind : NameKind) : Bool := kind == .named || kind == .anonymous

/-- The kind that a rule's name tells. -/
def NameKind.ofName (name : String) : NameKind :=
  if name.startsWith "_" then .hidden else .named

/-- A token with its name. -/
structure NamedToken where
  name : String
  kind : NameKind
  rule : TokenRule
  deriving Repr, Inhabited

/-- A rule with its name, its symbols told apart. -/
structure NamedRule where
  name : String
  kind : NameKind
  rule : Rule Symbol
  deriving Repr, Inhabited

/-- A token of the grammar's own scanner, with the ordinary token that it also is, if any. -/
structure ExternalToken where
  name : String
  kind : NameKind
  internal : Option Nat
  deriving BEq, Repr, Inhabited

/-- A grammar with numbered tokens and rules. -/
structure Tokenized where
  name : String
  tokens : Array NamedToken
  externals : Array ExternalToken
  rules : Array NamedRule
  extras : List Symbol
  separators : List Lexical.Pattern
  conflicts : List (List Symbol)
  orderings : List (List Rank)
  supertypes : List Symbol
  inlined : List Symbol
  word : Option Nat
  reserved : Array (String × List Nat)

namespace Tokenized

/-- The tokens of a rule, in order. -/
def tokensOf : Rule String → List TokenRule
  | .blank | .symbol _ => []
  | .token rule => [rule]
  | .seq first second | .choice first second => tokensOf first ++ tokensOf second
  | .repeat1 inner | .field _ inner | .shownAs _ inner | .ranked _ _ inner | .dynamic _ inner
  | .reserving _ inner => tokensOf inner

/-- Tokens found so far, with the number of times each was used. -/
structure Collection where
  tokens : Array NamedToken := #[]
  uses : Array Nat := #[]
  numbers : Std.HashMap TokenRule Nat := {}

/-- Counts a use of a token, which gets a number when it is new. -/
def Collection.add (found : Collection) (ruleName : String) (unnamed : Nat) (token : TokenRule) :
    Collection × Nat :=
  match found.numbers[token]? with
  | some number => ({ found with uses := found.uses.modify number (· + 1) }, unnamed)
  | none =>
    let (named, unnamed) := match token.literal with
      | some literal => (⟨literal, .anonymous, token⟩, unnamed)
      | none => (⟨s!"{ruleName}_token{unnamed + 1}", .auxiliary, token⟩, unnamed + 1)
    ({ tokens := found.tokens.push named, uses := found.uses.push 1,
       numbers := found.numbers.insert token found.tokens.size }, unnamed)

/-- Counts the tokens of one rule. -/
def Collection.addRule (found : Collection) (name : String) (rule : Rule String) : Collection :=
  ((tokensOf rule).foldl (fun (found, unnamed) token => found.add name unnamed token) (found, 0)).1

/-- The token that a rule consists of, if the rule is nothing else and no other rule uses it. -/
def ownToken? (found : Collection) : Rule String → Option Nat
  | .token token => do
    let number ← found.numbers[token]?
    if found.uses[number]? == some 1 then some number else none
  | _ => none

/-- Replaces names and tokens by symbols. -/
def resolve (names : Std.HashMap String Symbol) (found : Collection) : Rule String → Rule Symbol
  | .blank => .blank
  | .symbol name => .symbol (names.getD name .endOfInput)
  | .token token => .symbol (.token (found.numbers.getD token 0))
  | .seq first second => .seq (resolve names found first) (resolve names found second)
  | .choice left right => .choice (resolve names found left) (resolve names found right)
  | .repeat1 inner => .repeat1 (resolve names found inner)
  | .field name inner => .field name (resolve names found inner)
  | .shownAs name inner => .shownAs name (resolve names found inner)
  | .ranked precedence associativity inner =>
    .ranked precedence associativity (resolve names found inner)
  | .dynamic value inner => .dynamic value (resolve names found inner)
  | .reserving context inner => .reserving context (resolve names found inner)

/-- Numbers the tokens and rules of a grammar. -/
def ofGrammar (grammar : Definition) : Tokenized := Id.run do
  let mut found : Collection := {}
  for (name, rule) in grammar.rules do
    found := found.addRule name rule
  for rule in grammar.externals do
    found := found.addRule "" rule
  let mut tokens := found.tokens
  let mut names : Std.HashMap String Symbol := {}
  -- A rule's own name wins over an external token of that name.
  let mut externalCount := 0
  for rule in grammar.externals do
    if let .symbol name := rule then
      names := names.insert name (.external externalCount)
    externalCount := externalCount + 1
  let mut kept : Array (String × NameKind × Rule String) := #[]
  let mut isFirst := true
  for (name, rule) in grammar.rules do
    let kind := if grammar.supertypes.contains name then .hidden else .ofName name
    match (if isFirst then none else ownToken? found rule) with
    | some number =>
      tokens := tokens.modify number ({ · with name, kind })
      names := names.insert name (.token number)
    | none =>
      names := names.insert name (.rule kept.size)
      kept := kept.push (name, kind, rule)
    isFirst := false
  let symbolOf (name : String) : Symbol := names.getD name .endOfInput
  let mut extras := #[]
  let mut separators := #[]
  for rule in grammar.extras do
    match rule with
    | .symbol name => extras := extras.push (symbolOf name)
    | .token token =>
      match found.numbers[token]? with
      | some number => extras := extras.push (.token number)
      | none => separators := separators.push token.pattern
    | _ => pure ()
  let mut externals := #[]
  let mut externalIndex := 0
  for rule in grammar.externals do
    let (name, symbol) := match rule with
      | .symbol name => (name, symbolOf name)
      | .token token => (token.literal.getD "", .token (found.numbers.getD token 0))
      | _ => ("", .external externalIndex)
    externals := externals.push <| match symbol with
      | .token number =>
        { name := ((tokens[number]?).map (·.name)).getD name
          kind := if rule matches .symbol _ then .ofName name else .anonymous
          internal := some number }
      | _ => { name, kind := .ofName name, internal := none }
    externalIndex := externalIndex + 1
  return {
    name := grammar.name
    tokens, externals
    rules := kept.map fun (name, kind, rule) => ⟨name, kind, resolve names found rule⟩
    extras := extras.toList
    separators := separators.toList
    conflicts := grammar.conflicts.map (·.map symbolOf)
    orderings := grammar.orderings
    supertypes := grammar.supertypes.map symbolOf
    inlined := (grammar.inlined.filter names.contains).map symbolOf
    word := grammar.word.bind fun name => match symbolOf name with
      | .token number => some number
      | _ => none
    reserved := (grammar.reserved.map fun (name, rules) =>
      (name, rules.filterMap fun
        | .token token => found.numbers[token]?
        | .symbol word => match symbolOf word with
          | .token number => some number
          | _ => none
        | _ => none)).toArray }

end Tokenized

end SyntaxExplorer.Grammar
