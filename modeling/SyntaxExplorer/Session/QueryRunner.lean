import SyntaxExplorer.Query.Palette
import SyntaxExplorer.Registry.Library
/-!
Running queries for a view.  The query that was compiled last is kept, so that the same text need not be
compiled again; each run gives its colors anew.
-/

namespace SyntaxExplorer

variable {Tree Query : Type}

/-- A compiled query, with the grammar and the text that it was compiled from. -/
structure KeptQuery (Query : Type) where
  resource : String
  text : String
  query : Query

structure QueryRunner (Query : Type) where
  /-- The most matches that may be in progress at once. -/
  matchLimit : Nat
  kept : Option (KeptQuery Query) := none

namespace QueryRunner

/-- Whether a text asks for nothing. -/
def isBlank (text : String) : Bool := text.toList.all CharacterClass.whiteSpace.contains

def limitFault (limit : Nat) : QueryFault :=
  ⟨s!"Query exceeded the match limit of {limit} in-progress matches", 0, 0⟩

/-- The kept query, if it is the one that is asked for. -/
def find? (runner : QueryRunner Query) (resource text : String) : Option Query :=
  (runner.kept.filter fun kept => kept.resource == resource && kept.text == text).map (·.query)

/-- Compiles a query, unless it is kept.  A query that does not compile leaves none. -/
def compile (runner : QueryRunner Query) (grammar : LoadedGrammar Tree Query) (text : String) :
    Except QueryFault Query × QueryRunner Query :=
  match runner.find? grammar.resource text with
  | some query => (.ok query, runner)
  | none => match grammar.engine.compile text with
    | .error error => (.error (error.locate text), { runner with kept := none })
    | .ok query => (.ok query, { runner with kept := some ⟨grammar.resource, text, query⟩ })

/-- A node that a query captured, under a name. -/
structure Finding where
  pattern : Nat
  name : String
  node : Node
  parent : Option NodeId

/-- What some matches captured: match by match, and in each of them in its order. -/
def findings (names : Array String) (found : List (PatternMatch names.size)) : List Finding :=
  found.flatMap fun each => each.captured.map fun captured => {
    pattern := each.pattern
    name := names[captured.name]
    node := captured.node
    parent := captured.parent }

/-- The captures of some findings, in their order, each in the color of its name. -/
def color (source : String) (colors : ColorAssigner) : List Finding → List Capture × ColorAssigner
  | [] => ([], colors)
  | finding :: rest =>
    let (shade, colors) := colors.assign finding.name
    let capture : Capture := {
      pattern := finding.pattern
      name := finding.name
      node := FlatNode.detached source finding.parent finding.node
      color := shade }
    let (captures, colors) := color source colors rest
    (capture :: captures, colors)

/-- What a run of a query gives: the captures or a failure, and the runner and the colors after it. -/
structure Outcome (Query : Type) where
  captures : Except Failure (List Capture)
  runner : QueryRunner Query
  colors : ColorAssigner

/-- Evaluates a query on a tree of a text.  The names that have a color before the run are forgotten, and
those that got one in it where the run fails.  Whether there were too many matches is known only at the
end, when what was found has its colors. -/
def run (runner : QueryRunner Query) (grammar : LoadedGrammar Tree Query) (tree : Tree)
    (source text : String) (colors : ColorAssigner := {}) : Outcome Query :=
  let colors := colors.reset
  if isBlank text then ⟨.ok [], runner, colors⟩
  else match runner.compile grammar text with
    | (.error fault, runner) => ⟨.error (.queryCompile fault), runner, colors⟩
    | (.ok query, runner) =>
      let engine := grammar.engine
      let matching := engine.search query runner.matchLimit (engine.root tree) source
      let (captures, colors) :=
        color source colors (findings (engine.captureNames query) matching.found)
      if matching.exceeded then
        ⟨.error (.queryEval (limitFault runner.matchLimit)), runner, colors.reset⟩
      else ⟨.ok captures, runner, colors⟩

/-- Forgets the kept query. -/
def clear (runner : QueryRunner Query) : QueryRunner Query := { runner with kept := none }

end QueryRunner

end SyntaxExplorer
