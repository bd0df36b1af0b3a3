import SyntaxExplorer.Grammar.Production
import SyntaxExplorer.Table.TokenSet
/-!
The items of a grammar: its productions with a position in each.  Items with the same future, and
with the same past as far as the past shows in trees, count as one; all items are numbered in a fixed
order, so that sets of items have one form.
-/

namespace SyntaxExplorer.Table

open Grammar

/-- The numbering of symbols: external tokens, the end of input, tokens, then rules. -/
structure Alphabet where
  externals : Nat
  tokens : Nat
  rules : Nat
  deriving Repr, Inhabited

namespace Alphabet

def number (alphabet : Alphabet) : Symbol → Nat
  | .external index => index
  | .endOfInput => alphabet.externals
  | .token index => alphabet.externals + 1 + index
  | .rule index => alphabet.externals + 1 + alphabet.tokens + index

/-- The count of symbols that are no rules. -/
def terminals (alphabet : Alphabet) : Nat := alphabet.externals + 1 + alphabet.tokens

/-- The token that a number stands for, if it does. -/
def token? (alphabet : Alphabet) (number : Nat) : Option Nat :=
  if alphabet.externals < number && number < alphabet.terminals then
    some (number - alphabet.externals - 1)
  else none

def symbol (alphabet : Alphabet) (number : Nat) : Symbol :=
  if number < alphabet.externals then .external number
  else if number = alphabet.externals then .endOfInput
  else if number < alphabet.terminals then .token (number - alphabet.externals - 1)
  else .rule (number - alphabet.terminals)

end Alphabet

/-- What a reduction tells about its children: their aliases, and which of them bear each field,
directly or through the fields of a hidden child. -/
structure Shape where
  aliases : Array (Option Alias) := #[]
  fields : List (String × List (Nat × Bool)) := []
  deriving BEq, Hashable, Repr, Inhabited

/-- A production with a position. -/
structure Item where
  rule : Nat
  production : Production
  position : Nat
  /-- Whether a child before the position is hidden and has fields. -/
  inherits : Bool
  deriving Repr, Inhabited

namespace Item

def step? (item : Item) : Option Step := item.production.steps[item.position]?

def previous? (item : Item) : Option Step :=
  if item.position = 0 then none else item.production.steps[item.position - 1]?

def precedence (item : Item) : Precedence := (item.previous?.map (·.precedence)).getD .none

def associativity (item : Item) : Option Associativity := item.previous?.bind (·.associativity)

end Item

/-! The order of items: positions first, then rules, then what tells productions apart. -/

def compareOption (compare : α → α → Ordering) : Option α → Option α → Ordering
  | none, none => .eq
  | none, some _ => .lt
  | some _, none => .gt
  | some a, some b => compare a b

def comparePrecedence : Precedence → Precedence → Ordering
  | .none, .none => .eq
  | .none, _ => .lt
  | _, .none => .gt
  | .level a, .level b => compare a b
  | .level _, .named _ => .lt
  | .named _, .level _ => .gt
  | .named a, .named b => compare a b

def compareAssociativity : Associativity → Associativity → Ordering
  | .left, .right => .lt
  | .right, .left => .gt
  | _, _ => .eq

def compareAlias (a b : Alias) : Ordering :=
  (compare a.name b.name).then (compare a.isNamed.toNat b.isNamed.toNat)

def compareStep (alphabet : Alphabet) (a b : Step) : Ordering :=
  (compare (alphabet.number a.symbol) (alphabet.number b.symbol)).then <|
  (comparePrecedence a.precedence b.precedence).then <|
  (compareOption compareAssociativity a.associativity b.associativity).then <|
  (compareOption compareAlias a.shownAs b.shownAs).then <|
  (compareOption compare a.field b.field).then (compare a.reserved b.reserved)

/-- Compares what remains visible of a step that has been passed. -/
def comparePassed (alphabet : Alphabet) (inherits : Bool) (a b : Step) : Ordering :=
  (compareOption compareAlias a.shownAs b.shownAs).then <|
  (compareOption compare a.field b.field).then <|
  if inherits then compare (alphabet.number a.symbol) (alphabet.number b.symbol) else .eq

def compareSteps (alphabet : Alphabet) (item : Item) :
    Nat → List Step → List Step → Ordering
  | _, [], [] => .eq
  | _, [], _ :: _ => .lt
  | _, _ :: _, [] => .gt
  | index, a :: left, b :: right =>
    (if index < item.position then comparePassed alphabet item.inherits a b
      else compareStep alphabet a b).then (compareSteps alphabet item (index + 1) left right)

def compareItems (alphabet : Alphabet) (a b : Item) : Ordering :=
  (compare a.position b.position).then <|
  (compare a.rule b.rule).then <|
  (compare a.production.dynamicPrecedence b.production.dynamicPrecedence).then <|
  (compare a.production.steps.size b.production.steps.size).then <|
  (comparePrecedence a.precedence b.precedence).then <|
  (compareOption compareAssociativity a.associativity b.associativity).then <|
  (compare a.inherits.toNat b.inherits.toNat).then <|
  compareSteps alphabet a 0 a.production.steps.toList b.production.steps.toList

/-- An item by its number, with all that building a table asks of it. -/
structure ItemFacts where
  item : Item
  /-- The number of the next symbol, if the item is unfinished. -/
  next : Option Nat
  /-- The number of the symbol after the next. -/
  afterNext : Option Nat
  /-- The reserved words that hold where the next symbol is expected. -/
  reserved : Nat
  /-- The item one step on. -/
  successor : Nat
  /-- The items that stand for this one when its next symbol is inlined. -/
  inlined : Array Nat
  isInlined : Bool
  precedence : Precedence
  associativity : Option Associativity
  /-- The number of the shape that its reduction has. -/
  shape : Nat
  deriving Inhabited

/-- All items of a grammar. -/
structure ItemTable where
  alphabet : Alphabet
  items : Array ItemFacts
  /-- The items that start each production of each rule, inlined. -/
  starts : Array (Array Nat)
  startItem : Nat
  shapes : Array Shape
  deriving Inhabited

/-- The fields of each rule, with those that its hidden children bring. -/
def fieldsOfRules (grammar : SyntaxGrammar) : Array (List String) := Id.run do
  let addNew (found : List String) (name : String) : List String :=
    if found.contains name then found else name :: found
  let mut fields : Array (List String) := Array.replicate grammar.rules.size []
  for _ in [0:grammar.rules.size + 1] do
    let mut next := #[]
    for index in [0:grammar.rules.size] do
      let rule := grammar.rules[index]!
      let mut found := fields[index]!
      for production in rule.productions do
        for step in production.steps do
          if let some name := step.field then
            found := addNew found name
          if let .rule child := step.symbol then
            let shown := step.shownAs.isSome || (grammar.defaultAliases[step.symbol]?).isSome ||
              ((grammar.rules[child]?).map (·.kind.isVisible)).getD false
            unless shown do
              found := (fields[child]?.getD []).foldl addNew found
      next := next.push found
    let stable := (next.zip fields).all fun (a, b) => a.length == b.length
    fields := next
    if stable then
      break
  return fields.map (·.mergeSort (· ≤ ·))

namespace ItemTable

/-- Puts the steps of a production in the place of an inlined symbol. -/
def splice (production : Production) (position : Nat) (inner : Production) : Production :=
  let removed := production.steps[position]?.getD { symbol := .endOfInput }
  let last := inner.steps.size - 1
  let inserted := inner.steps.mapIdx fun index step =>
    let step := if removed.shownAs.isSome then { step with shownAs := removed.shownAs } else step
    let step := if removed.field.isSome then { step with field := removed.field } else step
    if index = last then
      let step := if step.precedence == .none then { step with precedence := removed.precedence }
        else step
      if step.associativity.isNone then { step with associativity := removed.associativity }
      else step
    else step
  { steps := production.steps.extract 0 position ++ inserted ++
      production.steps.extract (position + 1) production.steps.size
    dynamicPrecedence :=
      if production.dynamicPrecedence.natAbs < inner.dynamicPrecedence.natAbs then
        inner.dynamicPrecedence
      else production.dynamicPrecedence }

/-- The productions without an inlined symbol at a position.  `depth` bounds the nesting. -/
def expandAt (grammar : SyntaxGrammar) (position : Nat) :
    Nat → Production → List Production
  | 0, production => [production]
  | depth + 1, production =>
    match production.steps[position]? with
    | some { symbol := .rule index, .. } =>
      if grammar.inlined.contains (.rule index) then
        ((grammar.rules[index]?).map (·.productions.toList)).getD []
          |>.flatMap fun inner => expandAt grammar position depth (splice production position inner)
      else [production]
    | _ => [production]

/-- Whether the symbol at a position is inlined. -/
def inlinesAt (grammar : SyntaxGrammar) (production : Production) (position : Nat) : Bool :=
  match production.steps[position]? with
  | some step => grammar.inlined.contains step.symbol
  | none => false

/-- A production of a rule, with the numbers of its unsorted items. -/
structure Line where
  rule : Nat
  production : Production
  base : Nat
  deriving Inhabited

/-- Lines found so far. -/
structure Lines where
  lines : Array Line := #[]
  known : Std.HashMap (Nat × Production) Nat := {}
  size : Nat := 0
  /-- The lines that stand for a line when the symbol at a position is inlined. -/
  inlined : Std.HashMap (Nat × Nat) (Array Nat) := {}

def Lines.add (found : Lines) (rule : Nat) (production : Production) : Lines × Nat :=
  match found.known[(rule, production)]? with
  | some line => (found, line)
  | none =>
    ({ found with
        lines := found.lines.push ⟨rule, production, found.size⟩
        known := found.known.insert (rule, production) found.lines.size
        size := found.size + production.steps.size + 1 }, found.lines.size)

/-- Adds a production and all that inlining from a position on makes of it. -/
def addInlined (grammar : SyntaxGrammar) (rule : Nat) :
    Nat → Nat → Lines × Nat → Lines
  | 0, _, (found, _) => found
  | fuel + 1, position, (found, line) =>
    let production := (found.lines[line]?.getD default).production
    if production.steps.size ≤ position then found
    else if inlinesAt grammar production position then
      if (found.inlined[(line, position)]?).isSome then found
      else
        let (found, made) := (expandAt grammar position 64 production).foldl
          (fun (found, made) inner =>
            let (found, line) := found.add rule inner
            (found, if made.contains line then made else made.push line))
          (found, #[])
        let found :=
          { found with inlined := found.inlined.insert (line, position) made }
        made.foldl (fun found line => addInlined grammar rule fuel (position + 1) (found, line))
          found
    else addInlined grammar rule fuel (position + 1) (found, line)

/-- The shape of a production's reduction. -/
def shapeOf (grammar : SyntaxGrammar) (fields : Array (List String)) (production : Production) :
    Shape := Id.run do
  let mut found : List (String × List (Nat × Bool)) := []
  let add (found : List (String × List (Nat × Bool))) (name : String) (place : Nat × Bool) :=
    if found.any (·.1 == name) then
      found.map fun (other, places) => (other, if other == name then places ++ [place] else places)
    else found ++ [(name, [place])]
  for index in [0:production.steps.size] do
    let step := production.steps[index]!
    if let some name := step.field then
      found := add found name (index, false)
    if let .rule child := step.symbol then
      unless ((grammar.rules[child]?).map (·.kind.isVisible)).getD true do
        for name in fields[child]?.getD [] do
          found := add found name (index, true)
  let aliases := production.steps.map (·.shownAs)
  let kept := aliases.foldl
    (fun (count, last) shown => (count + 1, if shown.isSome then count + 1 else last)) (0, 0)
  return {
    aliases := aliases.extract 0 kept.2
    fields := found.mergeSort fun a b => a.1 ≤ b.1 }

/-- Numbers the items of a grammar. -/
def ofGrammar (grammar : SyntaxGrammar) (tokenCount : Nat) : ItemTable := Id.run do
  let alphabet : Alphabet :=
    { externals := grammar.externals.size, tokens := tokenCount, rules := grammar.rules.size }
  let fields := fieldsOfRules grammar
  let mut found : Lines := {}
  for index in [0:grammar.rules.size] do
    for production in grammar.rules[index]!.productions do
      let (added, line) := found.add index production
      found := addInlined grammar index 256 0 (added, line)
  let (added, startLine) := found.add grammar.rules.size { steps := #[{ symbol := .rule 0 }] }
  let all := added
  -- The items of all lines, with the line and the unsorted number of each.
  let hidesFields (step : Step) : Bool := match step.symbol with
    | .rule child =>
      !(((grammar.rules[child]?).map (·.kind.isVisible)).getD true) &&
        !(fields[child]?.getD []).isEmpty
    | _ => false
  let mut raw : Array (Item × Nat × Nat) := #[]
  -- Items beyond an inlined symbol occur in no set; of equal items, one that occurs stands for all.
  let mut occurring : Array Bool := #[]
  for lineIndex in [0:all.lines.size] do
    let line := all.lines[lineIndex]!
    let mut inherits := false
    let mut occurs := true
    for position in [0:line.production.steps.size + 1] do
      raw := raw.push (⟨line.rule, line.production, position, inherits⟩, lineIndex, raw.size)
      occurring := occurring.push occurs
      if inlinesAt grammar line.production position then
        occurs := false
      if let some step := line.production.steps[position]? then
        inherits := inherits || hidesFields step
  let occurs := occurring
  let rank (unsorted : Nat) : Nat := if occurs[unsorted]?.getD false then 0 else 1
  let sorted := raw.qsort fun a b => match compareItems alphabet a.1 b.1 with
    | .lt => true
    | .gt => false
    | .eq => (compare (rank a.2.2) (rank b.2.2)).then (compare a.2.2 b.2.2) == .lt
  let mut numbers := Array.replicate raw.size 0
  let mut chosen : Array (Item × Nat × Nat) := #[]
  for entry in sorted do
    match chosen.back? with
    | some last =>
      unless compareItems alphabet last.1 entry.1 == .eq do
        chosen := chosen.push entry
    | none => chosen := chosen.push entry
    numbers := numbers.set! entry.2.2 (chosen.size - 1)
  -- The shapes, the empty one first.
  let mut shapes : Array Shape := #[{}]
  let mut shapeNumbers : Std.HashMap Shape Nat := Std.HashMap.ofList [({}, 0)]
  let mut shapeOfLine := #[]
  for line in all.lines do
    let shape := shapeOf grammar fields line.production
    match shapeNumbers[shape]? with
    | some number => shapeOfLine := shapeOfLine.push number
    | none =>
      shapeOfLine := shapeOfLine.push shapes.size
      shapeNumbers := shapeNumbers.insert shape shapes.size
      shapes := shapes.push shape
  let numberOf (line position : Nat) : Nat :=
    numbers[(all.lines[line]?.getD default).base + position]?.getD 0
  let mut items := #[]
  for (item, line, unsorted) in chosen do
    let nextStep := item.step?
    let isInlined := inlinesAt grammar item.production item.position
    items := items.push {
      item
      next := nextStep.map fun step => alphabet.number step.symbol
      afterNext := (item.production.steps[item.position + 1]?).map fun step =>
        alphabet.number step.symbol
      reserved := (nextStep.map (·.reserved)).getD 0
      successor := if nextStep.isSome then numbers[unsorted + 1]?.getD 0 else 0
      inlined := ((all.inlined[(line, item.position)]?).getD #[]).map (numberOf · item.position)
      isInlined
      precedence := item.precedence
      associativity := item.associativity
      shape := shapeOfLine[line]?.getD 0 : ItemFacts }
  let allFound := all
  let starts := (Array.range grammar.rules.size).map fun rule =>
    (grammar.rules[rule]?.getD default).productions.flatMap fun production =>
      match allFound.known[(rule, production)]? with
      | none => #[]
      | some line => match allFound.inlined[(line, 0)]? with
        | some lines => lines.map (numberOf · 0)
        | none => #[numberOf line 0]
  return { alphabet, items, starts, startItem := numberOf startLine 0, shapes }

end ItemTable

end SyntaxExplorer.Table
