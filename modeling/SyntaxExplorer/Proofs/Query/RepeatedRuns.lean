import Mathlib.Data.Set.Basic
import SyntaxExplorer.Proofs.Query.KeptQueries
import SyntaxExplorer.Proofs.Session.CommentLines

/-! What a run of a query gives does not depend on the runs before it.
The kept query was compiled in a grammar with the resource that it is kept under, so it may stand for
compiling its text in any grammar of that resource; and the colors are given anew.
-/

namespace SyntaxExplorer

variable {Tree Query : Type}

/-- A call of a runner. -/
inductive QueryCall (Tree Query : Type)
  | run (grammar : LoadedGrammar Tree Query) (tree : Tree) (source text : String)
    (colors : ColorAssigner)
  | clear

/-- Grammars of one resource have one language: they compile the same queries to the same. -/
def AlikeByResource (grammars : Set (LoadedGrammar Tree Query)) : Prop :=
  ∀ grammar ∈ grammars, ∀ other ∈ grammars,
    grammar.resource = other.resource → grammar.engine.compile = other.engine.compile

/-- The grammar of a call is one of some grammars. -/
def QueryCall.Within (grammars : Set (LoadedGrammar Tree Query)) : QueryCall Tree Query → Prop
  | run grammar _ _ _ _ => grammar ∈ grammars
  | clear => True

namespace QueryRunner

variable {runner : QueryRunner Query} {grammars : Set (LoadedGrammar Tree Query)}
variable {grammar : LoadedGrammar Tree Query}

/-- What a call leaves of a runner. -/
def handle (runner : QueryRunner Query) : QueryCall Tree Query → QueryRunner Query
  | .run grammar tree source text colors => (runner.run grammar tree source text colors).runner
  | .clear => runner.clear

/-- What some calls leave of a runner. -/
def after (runner : QueryRunner Query) (calls : List (QueryCall Tree Query)) : QueryRunner Query :=
  calls.foldl handle runner

-----------------------------------------------------------------------------------------
-- The kept query
-----------------------------------------------------------------------------------------

/-- The kept query was compiled in one of some grammars, under whose resource it is kept. -/
def KeepsFrom (runner : QueryRunner Query) (grammars : Set (LoadedGrammar Tree Query)) : Prop :=
  ∀ kept,
    runner.kept = some kept
    → ∃ grammar ∈ grammars,
        kept.resource = grammar.resource ∧ grammar.engine.compile kept.text = .ok kept.query

/-- In each of the grammars the kept query is what compiling its text gives. -/
theorem KeepsFrom.keepsCompiled (keeps : runner.KeepsFrom grammars) (alike : AlikeByResource grammars)
    (member : grammar ∈ grammars)
    : runner.KeepsCompiled grammar := by
  intro kept held same
  obtain ⟨origin, among, resource, compiled⟩ := keeps kept held
  rw [alike grammar member origin among (same.symm.trans resource)]
  exact compiled

/-- Compiling in one of the grammars keeps a query of that grammar, or none, or the earlier one. -/
theorem KeepsFrom.compile (keeps : runner.KeepsFrom grammars) (member : grammar ∈ grammars)
    (text : String)
    : (runner.compile grammar text).2.KeepsFrom grammars := by
  rw [QueryRunner.compile]
  cases runner.find? grammar.resource text with
  | some query => exact keeps
  | none =>
      cases compiled : grammar.engine.compile text with
      | error fault =>
          intro kept held
          cases held
      | ok query =>
          intro kept held
          cases held
          exact ⟨grammar, member, rfl, compiled⟩

/-- A run leaves the runner as it is, or as compiling the query leaves it. -/
theorem runner_of_run (runner : QueryRunner Query) (grammar : LoadedGrammar Tree Query) (tree : Tree)
    (source text : String) (colors : ColorAssigner)
    : (runner.run grammar tree source text colors).runner = runner
      ∨ (runner.run grammar tree source text colors).runner
        = (runner.compile grammar text).2 := by
  simp only [run]
  split
  · exact Or.inl rfl
  · right
    split
    · rename_i compiled
      rw [compiled]
    · rename_i compiled
      rw [compiled]
      split
      · rfl
      · rfl

/-- A runner after some calls: what it keeps is of their grammars, and its match limit is that which it
started with.
-/
structure Reached (runner : QueryRunner Query) (grammars : Set (LoadedGrammar Tree Query))
    (matchLimit : Nat)
    : Prop where
  keeps : runner.KeepsFrom grammars
  limit : runner.matchLimit = matchLimit

/-- A call leaves a runner so, whether it succeeds or not. -/
theorem Reached.handle {matchLimit : Nat} (reached : runner.Reached grammars matchLimit)
    (alike : AlikeByResource grammars) {call : QueryCall Tree Query} (within : call.Within grammars)
    : (runner.handle call).Reached grammars matchLimit := by
  cases call with
  | run grammar tree source text colors =>
      obtain ⟨_, _, _, limit⟩ :=
        run_spec (reached.keeps.keepsCompiled alike within) tree source text
      refine ⟨?_, limit.trans reached.limit⟩
      rcases runner.runner_of_run grammar tree source text colors with same | compiled
      · rw [QueryRunner.handle, same]
        exact reached.keeps
      · rw [QueryRunner.handle, compiled]
        exact reached.keeps.compile within text
  | clear =>
      refine ⟨?_, reached.limit⟩
      intro kept held
      cases held

/-- Calls leave a runner so, by induction over the calls. -/
theorem Reached.after {matchLimit : Nat} (reached : runner.Reached grammars matchLimit)
    (alike : AlikeByResource grammars) {calls : List (QueryCall Tree Query)}
    (within : ∀ call ∈ calls, call.Within grammars)
    : (runner.after calls).Reached grammars matchLimit := by
  induction calls generalizing runner with
  | nil => exact reached
  | cons call rest ih =>
      have next := reached.handle alike (within call List.mem_cons_self)
      exact ih next fun other member => within other (List.mem_cons_of_mem _ member)

-----------------------------------------------------------------------------------------
-- Captures in the order of what was found
-----------------------------------------------------------------------------------------

/-- Coloring findings leaves them in their order, by induction over the findings. -/
theorem color_map (source : String) (colors : ColorAssigner) (findings : List Finding)
    : (color source colors findings).1.map
        (fun capture => (capture.pattern, capture.name, capture.node))
      = findings.map fun finding =>
          (finding.pattern, finding.name,
            FlatNode.detached source finding.parent finding.node) := by
  induction findings generalizing colors with
  | nil => rfl
  | cons finding rest ih =>
      simp only [color, List.map_cons]
      rw [ih]

/-- A run that stays below the match limit captures what the matches captured: match by match, and in
each of them in its order.
-/
theorem captures_of_found {query : Query} {text : String} (asked : isBlank text = false)
    (compiled : grammar.engine.compile text = .ok query) (tree : Tree) (source : String)
    (keeps : runner.KeepsCompiled grammar)
    : let names := grammar.engine.captureNames query
      let matching :=
        grammar.engine.search query runner.matchLimit (grammar.engine.root tree) source
      matching.exceeded = false
      → ∃ captures,
          (runner.run grammar tree source text).captures = .ok captures
          ∧ captures.map (fun capture => (capture.pattern, capture.name, capture.node))
            = matching.found.flatMap fun each =>
                each.captured.map fun captured =>
                  (each.pattern, names[captured.name],
                    FlatNode.detached source captured.parent captured.node) := by
  intro names matching below
  obtain ⟨answer, _, limit⟩ := compile_spec keeps text
  rw [compiled] at answer
  refine ⟨(color source {} (findings names matching.found)).1, ?_, ?_⟩
  · simp only [run, asked, Bool.false_eq_true, if_false]
    generalize runner.compile grammar text = outcome at answer limit ⊢
    obtain ⟨_, next⟩ := outcome
    cases answer
    dsimp only at limit ⊢
    rw [limit, below]
    rfl
  · rw [color_map, findings, List.map_flatMap]
    simp only [List.map_map, Function.comp_def]
    rfl

-----------------------------------------------------------------------------------------
-- Any calls
-----------------------------------------------------------------------------------------

/-- After any runs and clears, in grammars that are told apart by their resources, a run gives what a new
runner with a new assigner gives: the same captures in the order of what was found, in the same
colors, or the same failure.  Whatever the assigner held before, it holds the names of the captures
afterwards, and none if there are no captures.
-/
theorem after_runsAnew (alike : AlikeByResource grammars) (matchLimit : Nat)
    {calls : List (QueryCall Tree Query)} (within : ∀ call ∈ calls, call.Within grammars)
    (member : grammar ∈ grammars) (tree : Tree) (source text : String) (colors : ColorAssigner)
    : let start : QueryRunner Query := { matchLimit }
      let outcome := (start.after calls).run grammar tree source text colors
      let anew := start.run grammar tree source text {}
      outcome.captures = anew.captures
      ∧ outcome.colors = anew.colors
      ∧ Colored outcome.found outcome.colors
      ∧ ∀ query,
          isBlank text = false
          → grammar.engine.compile text = .ok query
          → let names := grammar.engine.captureNames query
            let matching :=
              grammar.engine.search query matchLimit (grammar.engine.root tree) source
            matching.exceeded = false
            → ∃ captures,
                outcome.captures = .ok captures
                ∧ captures.map (fun capture => (capture.pattern, capture.name, capture.node))
                  = matching.found.flatMap fun each =>
                      each.captured.map fun captured =>
                        (each.pattern, names[captured.name],
                          FlatNode.detached source captured.parent captured.node) := by
  intro start outcome anew
  have fresh : start.Reached grammars matchLimit := ⟨nofun, rfl⟩
  have reached := fresh.after alike within
  have keeps := reached.keeps.keepsCompiled alike member
  have forgets := (start.after calls).run_forgets grammar tree source text colors
  obtain ⟨captures, shades, _, _⟩ := run_spec keeps tree source text
  rw [reached.limit] at captures shades
  have same : outcome = (start.after calls).run grammar tree source text := forgets
  rw [same]
  refine ⟨captures, shades, run_colored _ grammar tree source text, ?_⟩
  intro query asked compiled names matching below
  have captured := captures_of_found asked compiled tree source keeps
  rw [reached.limit] at captured
  exact captured below

/-- A grammar of the lines of comments in which no query compiles. -/
def wordless : LoadedGrammar String Unit :=
  { CommentLines.grammar with
    resource := "tree-sitter-lines"
    build :=
      { CommentLines.grammar.build with
        engine := { CommentLines.engine with compile := fun _ => .error ⟨.unknownKind, 1, ""⟩ } } }

/-- A query that captures lines is run, then in the grammar in which it does not compile, and then one
that compiles nowhere.  Run again, it captures the lines as the first time, and the name that got a
color in between is forgotten.
-/
theorem after_runsAnew_commentLines
    : let grammar := CommentLines.grammar
      let calls : List (QueryCall String Unit) :=
        [.run grammar "//a" "//a" CommentLines.query {},
          .run wordless "//a" "//a" CommentLines.query {}, .run grammar "//a" "//a" "(row)" {}]
      let outcome := (({ matchLimit := 64 } : QueryRunner Unit).after calls).run
        grammar "//a\n//b" "//a\n//b" CommentLines.query ⟨["stale"]⟩
      let anew := ({ matchLimit := 64 } : QueryRunner Unit).run
        grammar "//a\n//b" "//a\n//b" CommentLines.query {}
      AlikeByResource {grammar, wordless}
      ∧ (∀ call ∈ calls, call.Within {grammar, wordless})
      ∧ outcome.captures = anew.captures
      ∧ outcome.found.map (fun capture => (capture.node.text, capture.color))
        = [("//a", "#80cbc4"), ("//b", "#80cbc4")]
      ∧ outcome.colors.names = ["line"] := by
  intro grammar calls outcome anew
  have alike : AlikeByResource {grammar, wordless} := by
    have apart : grammar.resource ≠ wordless.resource := by decide
    intro left member right others same
    rcases member with rfl | rfl <;> rcases others with rfl | rfl
    · rfl
    · exact (apart same).elim
    · exact (apart same.symm).elim
    · rfl
  have member : grammar ∈ ({grammar, wordless} : Set (LoadedGrammar String Unit)) := Or.inl rfl
  have others : wordless ∈ ({grammar, wordless} : Set (LoadedGrammar String Unit)) := Or.inr rfl
  have within : ∀ call ∈ calls, call.Within {grammar, wordless} := by
    simp only [calls, List.forall_mem_cons, QueryCall.Within]
    exact ⟨member, others, member, by simp⟩
  obtain ⟨captures, colors, _, _⟩ := after_runsAnew alike 64 within member "//a\n//b" "//a\n//b"
    CommentLines.query ⟨["stale"]⟩
  have found : outcome.found = anew.found := congrArg (·.toOption.getD []) captures
  have names : outcome.colors = anew.colors := colors
  refine ⟨alike, within, captures, ?_, ?_⟩
  · rw [found]
    decide +kernel
  · rw [names]
    decide +kernel

end QueryRunner

end SyntaxExplorer
