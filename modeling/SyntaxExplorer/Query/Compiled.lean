import SyntaxExplorer.Query.Possibility
import SyntaxExplorer.Query.Predicate
import SyntaxExplorer.Query.Reader
/-!
Compiled queries: the steps of their patterns, where these may start, and the conditions on matches.
-/

namespace SyntaxExplorer

open Query in
/-- A query that is ready to be evaluated. -/
structure Query where
  steps : Steps
  captures : Array String
  /-- The patterns that may start at a node of any kind, in order. -/
  anyKind : List Entry
  /-- The patterns that start at a node of one kind, in order. -/
  ofKind : List Entry
  /-- The conditions on the matches of each pattern. -/
  predicates : Array (List Predicate)
  deriving Inhabited

namespace Query

/-- Whether a pattern may skip its first step: a node of any kind, found through its child. -/
def startsBelow (steps : Steps) (start : Nat) : Bool :=
  let first := steps.step start
  let second := steps.step (start + 1)
  !first.isEnd && first.kind.isNone && first.depth == 0 && first.field.isNone &&
    second.kind.isSome && second.depth == 1 && !second.isImmediate && !second.isEnd

/-- Whether one node holds all that a pattern finds from a step on. -/
def isRooted (steps : Steps) (start : Nat) : Bool :=
  let depth := (steps.step start).depth
  let later := ((List.range (steps.size - (start + 1))).map (start + 1 + ·)).takeWhile fun index =>
    !(steps.step index).isDeadEnd
  depth == 0 && later.all fun index => (steps.step index).isEnd || (steps.step index).depth ≠ depth

/-- Where a pattern may start: at a step, and at its alternatives.  `skipped` is the alternative of a
first step that was skipped. -/
def entriesFrom (steps : Steps) (pattern : Nat) : Nat → Nat → Option Nat → List Entry
  | 0, _, _ => []
  | fuel + 1, start, skipped =>
    let isSkipped := startsBelow steps start
    let skipped := if isSkipped then (steps.step start).alternative else skipped
    let start := if isSkipped then start + 1 else start
    let step := steps.step start
    let own : List Entry := if step.isEnd then [] else [⟨start, pattern, isRooted steps start⟩]
    match step.alternative, skipped with
    | some next, _ => own ++ entriesFrom steps pattern fuel next skipped
    | none, some next => own ++ entriesFrom steps pattern fuel next none
    | none, none => own

/-- Reads the patterns of a query one after another, each with its entries and its conditions. -/
def readPatterns (language : Language) : Nat → ReadM (List (List Entry × List Condition))
  | 0 => ReadM.malformed
  | fuel + 1 => do
    let draft ← get
    if draft.rest.isEmpty then
      return []
    let start := draft.steps.size
    let pattern := (draft.steps.filter (·.isEnd)).size
    set { draft with conditions := [] }
    if ← ReadM.readPattern language (4 * draft.rest.length + 8) 0 false then
      ReadM.malformed
    ReadM.pushStep .ending
    let draft ← get
    let entries := entriesFrom draft.steps pattern draft.steps.size start none
    return (entries, draft.conditions) :: (← readPatterns language fuel)

/-- Compiles a query for a language. -/
def compile (language : Language) (tables : ChildTables) (text : String) :
    Except QueryError Query := do
  let start : Draft := { rest := text.toList }
  let (patterns, draft) ← (do
    ReadM.skip
    readPatterns language (text.length + 1)).run start
  let steps ← draft.steps.check language tables draft.places
  let predicates ← patterns.mapM fun (_, conditions) =>
    return (← conditions.mapM (·.toPredicate? draft.captures)).filterMap fun predicate => predicate
  let entries := patterns.map (·.1)
  let startsAnywhere (entry : Entry) : Bool := (steps.step entry.step).kind.isNone
  return {
    steps, captures := draft.captures
    anyKind := entries.flatMap (·.filter startsAnywhere)
    ofKind := entries.flatMap fun entries => (entries.filter (!startsAnywhere ·)).reverse
    predicates := predicates.toArray }

end Query

end SyntaxExplorer
