import SyntaxExplorer.Proofs.Query.Coloring

/-! Keeping the query that was compiled last has no part in what a run gives.
A kept query is the one that compiling its text gives, so it may stand for compiling again.
-/

namespace SyntaxExplorer

variable {Tree Query : Type}

namespace QueryRunner

/-- The kept query is what compiling its text gives, if it is of the grammar at hand. -/
def KeepsCompiled (runner : QueryRunner Query) (grammar : LoadedGrammar Tree Query) : Prop :=
  ∀ kept,
    runner.kept = some kept
    → kept.resource = grammar.resource
    → grammar.engine.compile kept.text = .ok kept.query

/-- A runner that has not compiled anything yet keeps nothing. -/
theorem keepsCompiled_new (matchLimit : Nat) (grammar : LoadedGrammar Tree Query)
    : ({ matchLimit } : QueryRunner Query).KeepsCompiled grammar := by
  rintro _ ⟨⟩

/-- Compiling with a kept query gives what compiling anew gives, and keeps no other query than
that.
-/
theorem compile_spec {runner : QueryRunner Query} {grammar : LoadedGrammar Tree Query}
    (keeps : runner.KeepsCompiled grammar) (text : String)
    : (runner.compile grammar text).1
        = (grammar.engine.compile text).mapError (QueryError.locate · text)
      ∧ (runner.compile grammar text).2.KeepsCompiled grammar
      ∧ (runner.compile grammar text).2.matchLimit = runner.matchLimit := by
  rw [compile]
  cases found : runner.find? grammar.resource text with
  | some query =>
      simp only [find?, Option.map_eq_some_iff, Option.filter_eq_some_iff, Bool.and_eq_true,
        beq_iff_eq] at found
      obtain ⟨kept, ⟨same, resource, rfl⟩, rfl⟩ := found
      rw [keeps kept same resource]
      exact ⟨rfl, keeps, rfl⟩
  | none =>
      cases compiled : grammar.engine.compile text with
      | error fault =>
          refine ⟨rfl, ?_, rfl⟩
          rintro _ ⟨⟩
      | ok query =>
          refine ⟨rfl, ?_, rfl⟩
          rintro _ ⟨⟩ _
          exact compiled

/-- The names that had a color before a run have no part in it. -/
theorem run_forgets (runner : QueryRunner Query) (grammar : LoadedGrammar Tree Query) (tree : Tree)
    (source text : String) (colors : ColorAssigner)
    : runner.run grammar tree source text colors = runner.run grammar tree source text :=
  rfl

/-- The captures of an outcome, none if the run failed. -/
def Outcome.found (outcome : Outcome Query) : List Capture :=
  outcome.captures.toOption.getD []

/-- A run of a query gives what it gives to a runner that keeps nothing, and keeps no other query
than it compiled.
-/
theorem run_spec {runner : QueryRunner Query} {grammar : LoadedGrammar Tree Query}
    (keeps : runner.KeepsCompiled grammar) (tree : Tree) (source text : String)
    : let anew := ({ matchLimit := runner.matchLimit } : QueryRunner Query).run
        grammar tree source text
      let outcome := runner.run grammar tree source text
      outcome.captures = anew.captures
      ∧ outcome.colors = anew.colors
      ∧ outcome.runner.KeepsCompiled grammar
      ∧ outcome.runner.matchLimit = runner.matchLimit := by
  intro anew outcome
  simp only [anew, outcome, run]
  split
  · exact ⟨rfl, rfl, keeps, rfl⟩
  · obtain ⟨answer, kept, limit⟩ := compile_spec keeps text
    obtain ⟨answerAnew, _, limitAnew⟩ :=
      compile_spec (keepsCompiled_new runner.matchLimit grammar) text
    generalize runner.compile grammar text = compiled at answer kept limit ⊢
    generalize ({ matchLimit := runner.matchLimit } : QueryRunner Query).compile grammar text
      = compiledAnew at answerAnew limitAnew ⊢
    obtain ⟨_, next⟩ := compiled
    obtain ⟨_, nextAnew⟩ := compiledAnew
    cases answer
    cases answerAnew
    cases grammar.engine.compile text with
    | error fault => exact ⟨rfl, rfl, kept, limit⟩
    | ok query =>
        dsimp only at limit limitAnew ⊢
        rw [limit, limitAnew]
        split
        · exact ⟨rfl, rfl, kept, limit⟩
        · exact ⟨rfl, rfl, kept, limit⟩

/-- The captures of a run are colored by their own names; a run that fails leaves no colors. -/
theorem run_colored (runner : QueryRunner Query) (grammar : LoadedGrammar Tree Query)
    (tree : Tree) (source text : String)
    : Colored (runner.run grammar tree source text).found
        (runner.run grammar tree source text).colors := by
  rw [run]
  split
  · exact .nil
  · split
    · exact .nil
    · simp only
      split
      · exact .nil
      · exact color_colored source _

end QueryRunner

end SyntaxExplorer
