import SyntaxExplorer.Proofs.Query.KeptQueries
import SyntaxExplorer.Proofs.Session.CommentLines

/-! The captures of a session are those that its query has in its tree, after any run.
A call that changes what the query has there runs it again, and each run replaces all captures and
colors, also where it fails.
-/

namespace SyntaxExplorer.Session

open QueryRunner

variable {Tree Query : Type}

/-- What the active query of a session captures if a runner and an assigner that are new evaluate
it: nothing if no query is active, or if that run fails.
-/
def evaluation (session : Session Tree Query) : List Capture :=
  match session.state.activeQuery? with
  | none => []
  | some query =>
      let runner : QueryRunner Query := { matchLimit := session.queries.matchLimit }
      (runner.run session.grammar session.tree session.text query).found

/-- A call that runs the query: one that sets it, or an accepted batch of changes while a query is
active.
-/
def RunsQuery (session : Session Tree Query) : Call → Prop
  | .request (.enableQuery _) | .request (.queryNode _) => True
  | .event (.textChanged changes) =>
      changes ≠ []
      ∧ (∃ events, (session.changeText changes).1 = .ok events)
      ∧ session.state.activeQuery?.isSome
  | _ => False

/-- Some calls of which one runs the query. -/
def EverRunsQuery (session : Session Tree Query) : List Call → Prop
  | [] => False
  | call :: rest => session.RunsQuery call ∨ (session.handle call).2.EverRunsQuery rest

/-- A session highlights what its last search captured: the query that it keeps is what compiling
its text gives, and the captures are colored by their own names.
-/
structure Highlights (session : Session Tree Query) : Prop where
  keeps : session.queries.KeepsCompiled session.grammar
  colored : Colored session.captures session.colors

/-- A session starts without captures. -/
theorem Started.highlights {text : String} {grammar : LoadedGrammar Tree Query}
    {matchLimit : Nat} {session : Session Tree Query}
    (started : Started text grammar matchLimit session)
    : session.Highlights ∧ session.captures = [] := by
  obtain ⟨state, rfl⟩ := started.eq_refresh
  exact ⟨⟨keepsCompiled_new matchLimit grammar, .nil⟩, rfl⟩

/-- What can be said of a stretch of a run, as the query ran in it or not: if it did, the captures
are what the query has in the tree at the end, and else neither of the two has changed.
-/
structure HighlightsFrom (session : Session Tree Query) (ran : Prop) (last : Session Tree Query)
    : Prop where
  highlights : last.Highlights
  current : ran → last.captures = last.evaluation
  untouched
    : ¬ ran → last.captures = session.captures ∧ last.evaluation = session.evaluation

/-- Where nothing happens to the query, its grammar, text and tree, nothing changes. -/
theorem HighlightsFrom.of_untouched {session last : Session Tree Query} {ran : Prop}
    (highlights : session.Highlights) (idle : ¬ ran)
    (same : last.grammar = session.grammar ∧ last.queries = session.queries
      ∧ last.captures = session.captures ∧ last.colors = session.colors)
    (evaluation : last.evaluation = session.evaluation)
    : HighlightsFrom session ran last := by
  obtain ⟨grammar, queries, captures, colors⟩ := same
  refine ⟨⟨?_, ?_⟩, fun runs => (idle runs).elim, fun _ => ⟨captures, evaluation⟩⟩
  · rw [grammar, queries]
    exact highlights.keeps
  · rw [captures, colors]
    exact highlights.colored

/-- Two stretches make one, in which the query ran if it ran in either. -/
theorem HighlightsFrom.trans {session middle last : Session Tree Query} {early late : Prop}
    (first : HighlightsFrom session early middle) (second : HighlightsFrom middle late last)
    : HighlightsFrom session (early ∨ late) last := by
  refine ⟨second.highlights, fun runs => ?_, fun idle => ?_⟩
  · by_cases runsLate : late
    · exact second.current runsLate
    · obtain ⟨captures, evaluation⟩ := second.untouched runsLate
      rw [captures, evaluation]
      exact first.current (runs.resolve_right runsLate)
  · obtain ⟨idleEarly, idleLate⟩ := not_or.mp idle
    obtain ⟨captures, evaluation⟩ := second.untouched idleLate
    obtain ⟨capturesEarly, evaluationEarly⟩ := first.untouched idleEarly
    exact ⟨captures.trans capturesEarly, evaluation.trans evaluationEarly⟩

/-- A run of an active query keeps what it found in the place of all earlier captures. -/
theorem runQuery_of_active {session : Session Tree Query} {query : String}
    (active : session.state.activeQuery? = some query)
    : let outcome := session.queries.run session.grammar session.tree session.text query
      session.runQuery.2
      = { session with
          queries := outcome.runner, colors := outcome.colors, captures := outcome.found } := by
  have anew :=
    session.queries.run_forgets session.grammar session.tree session.text query session.colors
  rw [Session.runQuery, active]
  simp only [anew, Outcome.found]
  cases (session.queries.run session.grammar session.tree session.text query).captures with
  | ok found => rfl
  | error failure => rfl

/-- Running the query leaves the captures that a new runner finds, and their colors only.  The runs
that fail leave none of either.
-/
theorem Highlights.runQuery {session : Session Tree Query} (highlights : session.Highlights)
    : session.runQuery.2.Highlights
      ∧ session.runQuery.2.captures = session.runQuery.2.evaluation := by
  cases active : session.state.activeQuery? with
  | none =>
      rw [Session.runQuery, active]
      refine ⟨⟨highlights.keeps, .nil⟩, ?_⟩
      simp only [evaluation, active]
  | some query =>
      obtain ⟨captures, _, keeps, limit⟩ :=
        run_spec highlights.keeps session.tree session.text query
      have colored :=
        session.queries.run_colored session.grammar session.tree session.text query
      rw [runQuery_of_active active]
      refine ⟨⟨keeps, colored⟩, ?_⟩
      simp only [evaluation, active, Outcome.found, limit, captures]
      rfl

/-- A search covers a stretch of a run in which the query ran. -/
theorem Highlights.from_runQuery {session : Session Tree Query} (highlights : session.Highlights)
    (earlier : Session Tree Query) {ran : Prop} (runs : ran)
    : HighlightsFrom earlier ran session.runQuery.2 := by
  obtain ⟨next, current⟩ := highlights.runQuery
  exact ⟨next, fun _ => current, fun idle => (idle runs).elim⟩

/-- A request that sets the query runs it, and any other leaves alone what it captured. -/
theorem Highlights.handleRequest {session : Session Tree Query} (highlights : session.Highlights)
    (request : ViewRequest)
    : HighlightsFrom session (session.RunsQuery (.request request))
        (session.handleRequest request).2 := by
  cases request with
  | enableQuery value =>
      let chosen := { session with state := { session.state with queryEnabled := value } }
      have kept : chosen.Highlights := ⟨highlights.keeps, highlights.colored⟩
      exact kept.from_runQuery session trivial
  | queryNode text =>
      let chosen := { session with state := { session.state with queryText := text } }
      have kept : chosen.Highlights := ⟨highlights.keeps, highlights.colored⟩
      exact kept.from_runQuery session trivial
  | showAnonymousNodes | enableNodeMapping | selectEditorText | logOutput =>
      exact .of_untouched highlights id ⟨rfl, rfl, rfl, rfl⟩ rfl

/-- A batch of changes that applies runs an active query on the new tree; without one there was
nothing to capture before and there is nothing after.
-/
theorem Highlights.changeText {session : Session Tree Query} (highlights : session.Highlights)
    (changes : List TextChange)
    : HighlightsFrom session (session.RunsQuery (.event (.textChanged changes)))
        (session.changeText changes).2 := by
  have outcome := session.changeText_outcome changes
  simp only [RunsQuery]
  generalize session.changeText changes = result at outcome ⊢
  obtain ⟨answer, next⟩ := result
  cases outcome with
  | empty none => exact .of_untouched highlights (fun runs => runs.1 none) ⟨rfl, rfl, rfl, rfl⟩ rfl
  | rejected some failed =>
      refine .of_untouched highlights ?_ ⟨rfl, rfl, rfl, rfl⟩ rfl
      rintro ⟨_, ⟨_, ⟨⟩⟩, _⟩
  | @accepted edits text some applied =>
      let moved := (session.goOver edits text).refresh.2
      have kept : moved.Highlights := ⟨highlights.keeps, highlights.colored⟩
      by_cases active : session.state.activeQuery?.isSome
      · have ran : moved.requery = moved.runQuery := if_pos active
        change HighlightsFrom session _ moved.requery.2
        rw [ran]
        exact kept.from_runQuery session ⟨some, ⟨_, rfl⟩, active⟩
      · have skipped : moved.requery = ([], moved) := if_neg active
        change HighlightsFrom session _ moved.requery.2
        rw [skipped]
        have nothing : session.state.activeQuery? = none := by simpa using active
        have nothingLater : moved.state.activeQuery? = none := nothing
        refine .of_untouched highlights (fun runs => active runs.2.2) ⟨rfl, rfl, rfl, rfl⟩ ?_
        simp only [evaluation, nothing, nothingLater]

/-- Each call either runs the query or leaves alone what it captured. -/
theorem Highlights.handle {session : Session Tree Query} (highlights : session.Highlights)
    (call : Call)
    : HighlightsFrom session (session.RunsQuery call) (session.handle call).2 := by
  cases call with
  | request request => exact highlights.handleRequest request
  | event event =>
      cases event with
      | textChanged changes => exact highlights.changeText changes
      | selectionChanged | visibleRangeChanged =>
          exact .of_untouched highlights id ⟨rfl, rfl, rfl, rfl⟩ rfl
      | viewStateChanged visible active =>
          simp only [Session.handle, Session.handleEvent]
          split
          · exact .of_untouched highlights id ⟨rfl, rfl, rfl, rfl⟩ rfl
          · exact .of_untouched highlights id ⟨rfl, rfl, rfl, rfl⟩ rfl

/-- The stretches that the calls cover make up a run, by induction over the calls. -/
theorem Highlights.after {session : Session Tree Query} (highlights : session.Highlights)
    (calls : List Call)
    : HighlightsFrom session (session.EverRunsQuery calls) (session.after calls) := by
  induction calls generalizing session with
  | nil => exact .of_untouched highlights id ⟨rfl, rfl, rfl, rfl⟩ rfl
  | cons call rest ih =>
      have first := highlights.handle call
      exact first.trans (ih first.highlights)

/-- After any calls, failed ones included, the captures are those that the query has in the tree if
the document was opened.  If it was resumed, there are none until a call runs the query, and from
then on the same holds.  The assigner always holds their names in the order in which they are first
seen, with the color of each at its place.
-/
theorem after_highlights {text : String} {grammar : LoadedGrammar Tree Query} {matchLimit : Nat}
    {session : Session Tree Query} (started : Started text grammar matchLimit session)
    (calls : List Call)
    : let last := session.after calls
      ((∃ uri, Session.open uri text grammar matchLimit = .ok session)
        → last.captures = last.evaluation)
      ∧ (session.EverRunsQuery calls → last.captures = last.evaluation)
      ∧ (¬ session.EverRunsQuery calls → last.captures = [])
      ∧ Colored last.captures last.colors := by
  intro last
  obtain ⟨highlights, nothing⟩ := started.highlights
  obtain ⟨ended, current, untouched⟩ := highlights.after calls
  refine ⟨?_, current, fun idle => (untouched idle).1.trans nothing, ended.colored⟩
  rintro ⟨uri, opened⟩
  by_cases ran : session.EverRunsQuery calls
  · exact current ran
  · -- The state of a document that is opened has no active query.
    obtain ⟨captures, evaluation⟩ := untouched ran
    obtain ⟨_, rfl⟩ := resume_eq_ok_iff.mp opened
    rw [captures, evaluation]
    rfl

/-- A query captures the lines of a document, those of a change too, until it is replaced by one
that is not of the language.
-/
theorem after_highlights_commentLines
    : Started "//a" CommentLines.grammar 64 CommentLines.session
      ∧ let calls : List Call :=
          [.request (.queryNode CommentLines.query), .request (.enableQuery true),
            .event (.textChanged [.ofSpan "//a" 3 0 "\n//é"])]
        let last := CommentLines.session.after calls
        last.captures = last.evaluation
        ∧ last.captures.map (·.node.text) = ["//a", "//é"]
        ∧ Colored last.captures last.colors
        ∧ last.colors.names = ["line"]
        ∧ (last.after [.request (.queryNode "(row) @line")]).captures = [] := by
  refine ⟨CommentLines.started, ?_⟩
  intro calls last
  obtain ⟨opened, _, _, colored⟩ := after_highlights CommentLines.started calls
  refine ⟨opened ⟨"file:///a.js", rfl⟩, ?_, colored, ?_, ?_⟩
  · decide +kernel
  · decide +kernel
  · decide +kernel

end SyntaxExplorer.Session
