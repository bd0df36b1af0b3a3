import SyntaxExplorer.Proofs.Session.Choices
import SyntaxExplorer.Proofs.Session.Highlighting
import SyntaxExplorer.Proofs.Session.Publication

/-! Requests of the view and events of the editor commute.  The events alone lead to the text and its
tree, the requests alone to the choices of the view, and all else that a session has follows from
these: so it does not matter when the two came in between each other.
-/

namespace SyntaxExplorer

variable {Tree Query : Type}

/-- The last value that some requests set, and an earlier one if none of them does. -/
def ViewRequest.lastSet {α : Type} (value? : ViewRequest → Option α) (earlier : α)
    (requests : List ViewRequest) : α :=
  (requests.filterMap value?).getLast?.getD earlier

/-- The first of some requests sets what counts until a later one sets it. -/
theorem ViewRequest.lastSet_cons {α : Type} (value? : ViewRequest → Option α) (earlier : α)
    (request : ViewRequest) (rest : List ViewRequest)
    : lastSet value? earlier (request :: rest)
      = lastSet value? ((value? request).getD earlier) rest := by
  simp only [lastSet, List.filterMap_cons]
  cases value? request with
  | none => rfl
  | some value =>
      rw [List.getLast?_cons, Option.getD_some, Option.getD_some]

/-- The choices of a state are the last ones that some requests made, and those of an earlier state
where they made none.
-/
structure ViewState.LastChosen (state earlier : ViewState) (requests : List ViewRequest) : Prop where
  queryText
    : state.queryText
      = ViewRequest.lastSet (fun | .queryNode text => some text | _ => none) earlier.queryText
          requests
  queryEnabled
    : state.queryEnabled
      = ViewRequest.lastSet (fun | .enableQuery value => some value | _ => none)
          earlier.queryEnabled requests
  anonymousShown
    : state.anonymousShown
      = ViewRequest.lastSet (fun | .showAnonymousNodes value => some value | _ => none)
          earlier.anonymousShown requests
  mappingEnabled
    : state.mappingEnabled
      = ViewRequest.lastSet (fun | .enableNodeMapping value => some value | _ => none)
          earlier.mappingEnabled requests
  logEnabled
    : state.logEnabled
      = ViewRequest.lastSet (fun | .logOutput value => some value | _ => none)
          earlier.logEnabled requests

/-- No requests leave the choices as they were. -/
theorem ViewState.SameChoices.lastChosen {state earlier : ViewState}
    (same : state.SameChoices earlier)
    : state.LastChosen earlier [] :=
  ⟨same.queryText, same.queryEnabled, same.anonymousShown, same.mappingEnabled, same.logEnabled⟩

/-- A request chooses first, and those after it go on from there. -/
theorem ViewState.LastChosen.cons {state earlier : ViewState} {request : ViewRequest}
    {rest : List ViewRequest}
    (later : state.LastChosen ((Session.Call.request request).choose earlier) rest)
    : state.LastChosen earlier (request :: rest) := by
  obtain ⟨queryText, queryEnabled, anonymousShown, mappingEnabled, logEnabled⟩ := later
  constructor
  all_goals rw [ViewRequest.lastSet_cons]
  · cases request <;> exact queryText
  · cases request <;> exact queryEnabled
  · cases request <;> exact anonymousShown
  · cases request <;> exact mappingEnabled
  · cases request <;> exact logEnabled

/-- States with the choices of the same requests have the same choices. -/
theorem ViewState.LastChosen.sameChoices {left right earlier : ViewState}
    {requests : List ViewRequest} (first : left.LastChosen earlier requests)
    (second : right.LastChosen earlier requests)
    : left.SameChoices right where
  queryText := first.queryText.trans second.queryText.symm
  queryEnabled := first.queryEnabled.trans second.queryEnabled.symm
  anonymousShown := first.anonymousShown.trans second.anonymousShown.symm
  mappingEnabled := first.mappingEnabled.trans second.mappingEnabled.symm
  logEnabled := first.logEnabled.trans second.logEnabled.symm

/-- A state is its document, its nodes and its choices. -/
theorem ViewState.SameChoices.eq {left right : ViewState} (same : left.SameChoices right)
    (document : left.document = right.document) (nodes : left.nodes = right.nodes)
    : left = right := by
  obtain ⟨queryText, queryEnabled, anonymousShown, mappingEnabled, logEnabled⟩ := same
  cases left
  cases right
  simp_all

namespace Session

-----------------------------------------------------------------------------------------
-- Interleavings
-----------------------------------------------------------------------------------------

/-- Calls that interleave some requests of the view and some events of the editor.  Each of the two
keeps its order.
-/
inductive Interleaves : List ViewRequest → List EditorEvent → List Call → Prop
  | nil : Interleaves [] [] []
  | request {requests events calls} (request : ViewRequest)
    (later : Interleaves requests events calls)
    : Interleaves (request :: requests) events (.request request :: calls)
  | event {requests events calls} (event : EditorEvent)
    (later : Interleaves requests events calls)
    : Interleaves requests (event :: events) (.event event :: calls)

/-- The choices after an interleaving are the last ones that its requests made, by induction over it. -/
theorem Interleaves.lastChosen {session : Session Tree Query} {earlier : ViewState}
    {requests : List ViewRequest} {events : List EditorEvent} {calls : List Call}
    (interleaves : Interleaves requests events calls)
    (same : session.state.SameChoices earlier)
    : (session.after calls).state.LastChosen earlier requests := by
  induction interleaves generalizing session earlier with
  | nil => exact same.lastChosen
  | request request _ ih =>
      refine .cons (ih ?_)
      exact (session.handle_chooses _).trans (Call.choose_sameChoices same _)
  | event event _ ih =>
      exact ih ((session.handle_chooses _).trans (Call.choose_sameChoices same _))

-----------------------------------------------------------------------------------------
-- What the events of the editor lead to
-----------------------------------------------------------------------------------------

/-- Two sessions have the same text and tree after equally many batches, in the same grammar, and
stand in the editor in the same way.
-/
structure SameDocument (left right : Session Tree Query) : Prop where
  text : left.text = right.text
  tree : left.tree = right.tree
  generation : left.generation = right.generation
  grammar : left.grammar = right.grammar
  isVisible : left.isVisible = right.isVisible
  isActive : left.isActive = right.isActive

namespace SameDocument

/-- A session has the document of its own. -/
theorem refl (session : Session Tree Query) : session.SameDocument session :=
  ⟨rfl, rfl, rfl, rfl, rfl, rfl⟩

/-- Sessions with the document of a third have the same document. -/
theorem trans {first second third : Session Tree Query} (left : first.SameDocument second)
    (right : second.SameDocument third)
    : first.SameDocument third where
  text := left.text.trans right.text
  tree := left.tree.trans right.tree
  generation := left.generation.trans right.generation
  grammar := left.grammar.trans right.grammar
  isVisible := left.isVisible.trans right.isVisible
  isActive := left.isActive.trans right.isActive

/-- The document is the same in both directions. -/
theorem symm {left right : Session Tree Query} (same : left.SameDocument right)
    : right.SameDocument left where
  text := same.text.symm
  tree := same.tree.symm
  generation := same.generation.symm
  grammar := same.grammar.symm
  isVisible := same.isVisible.symm
  isActive := same.isActive.symm

/-- Searching the tree leaves the document as it is. -/
theorem of_runQuery (session : Session Tree Query)
    : session.runQuery.2.SameDocument session := by
  obtain ⟨queries, colors, captures, same⟩ := session.runQuery_keeps
  rw [same]
  exact ⟨rfl, rfl, rfl, rfl, rfl, rfl⟩

/-- Searching it again does so as well. -/
theorem of_requery (session : Session Tree Query)
    : session.requery.2.SameDocument session := by
  obtain ⟨queries, colors, captures, same⟩ := session.requery_keeps
  rw [same]
  exact ⟨rfl, rfl, rfl, rfl, rfl, rfl⟩

/-- No request of the view reaches the document. -/
theorem of_request (session : Session Tree Query) (request : ViewRequest)
    : (session.handleRequest request).2.SameDocument session := by
  cases request with
  | showAnonymousNodes | enableNodeMapping | selectEditorText | logOutput =>
      exact ⟨rfl, rfl, rfl, rfl, rfl, rfl⟩
  | enableQuery value =>
      let chosen := { session with state := { session.state with queryEnabled := value } }
      exact (of_runQuery chosen).trans ⟨rfl, rfl, rfl, rfl, rfl, rfl⟩
  | queryNode text =>
      let chosen := { session with state := { session.state with queryText := text } }
      exact (of_runQuery chosen).trans ⟨rfl, rfl, rfl, rfl, rfl, rfl⟩

variable {left right : Session Tree Query}

/-- Edits carry the same tree of the same grammar to the same tree. -/
theorem goOver (same : left.SameDocument right) (edits : List TreeEdit) (text : String)
    : (left.goOver edits text).SameDocument (right.goOver edits text) := by
  have engine : left.parser.grammar = right.parser.grammar := same.grammar
  refine ⟨rfl, ?_, congrArg (· + 1) same.generation, same.grammar, same.isVisible, same.isActive⟩
  simp only [Session.goOver, Session.grammar, DocumentParser.carry, DocumentParser.engine, engine,
    same.tree]

/-- A batch of changes applies to the same text in the same way, whatever the view chose.  A change
that does not apply to it fails for both sessions.
-/
theorem changeText (same : left.SameDocument right) (changes : List TextChange)
    : (left.changeText changes).2.SameDocument (right.changeText changes).2 := by
  have first := left.changeText_outcome changes
  have second := right.changeText_outcome changes
  generalize left.changeText changes = result at first ⊢
  generalize right.changeText changes = other at second ⊢
  obtain ⟨answer, next⟩ := result
  obtain ⟨otherAnswer, otherNext⟩ := other
  cases first with
  | empty none =>
      cases second with
      | empty => exact same
      | rejected some | accepted some => exact (some none).elim
  | rejected some failed =>
      cases second with
      | empty none => exact (some none).elim
      | rejected => exact same
      | accepted _ applied =>
          rw [same.text, applied] at failed
          cases failed
  | @accepted edits text some applied =>
      cases second with
      | empty none => exact (some none).elim
      | rejected _ failed =>
          rw [same.text, failed] at applied
          cases applied
      | accepted _ otherApplied =>
          rw [same.text, otherApplied] at applied
          cases applied
          have shown : (left.goOver edits text).refresh.2.SameDocument
              (right.goOver edits text).refresh.2 := by
            obtain ⟨sameText, tree, generation, grammar, isVisible, isActive⟩ :=
              same.goOver edits text
            exact ⟨sameText, tree, generation, grammar, isVisible, isActive⟩
          exact ((of_requery _).trans shown).trans (of_requery _).symm

/-- An event of the editor leads to the same document again. -/
theorem event (same : left.SameDocument right) (event : EditorEvent)
    : (left.handleEvent event).2.SameDocument (right.handleEvent event).2 := by
  cases event with
  | textChanged changes => exact same.changeText changes
  | selectionChanged | visibleRangeChanged => exact same
  | viewStateChanged isVisible isActive =>
      obtain ⟨text, tree, generation, grammar, wasVisible, _⟩ := same
      simp only [Session.handleEvent, wasVisible]
      split <;> exact ⟨text, tree, generation, grammar, rfl, rfl⟩

end SameDocument

/-- An interleaving leads to the document to which its events alone lead, by induction over it. -/
theorem Interleaves.sameDocument {left right : Session Tree Query}
    {requests : List ViewRequest} {events : List EditorEvent} {calls : List Call}
    (interleaves : Interleaves requests events calls) (same : left.SameDocument right)
    : (left.after calls).SameDocument (right.after (events.map .event)) := by
  induction interleaves generalizing left right with
  | nil => exact same
  | request request _ ih => exact ih ((SameDocument.of_request left request).trans same)
  | event event _ ih => exact ih (same.event event)

-----------------------------------------------------------------------------------------
-- What follows from the document and the choices
-----------------------------------------------------------------------------------------

/-- All else that a session of an opened document has follows from its document and its choices: its
nodes are those of its tree, its captures are those that its query has there with a match limit,
their names have the colors, and it traces as it was asked to.
-/
structure Derives (session : Session Tree Query) (matchLimit : Nat) : Prop where
  nodes
    : session.state.nodes
      = session.grammar.engine.listing session.tree session.text session.state.anonymousShown
  matchLimit : session.queries.matchLimit = matchLimit
  captures : session.captures = session.evaluation
  colors : session.colors.names = (session.captures.map (·.name)).eraseDups
  logging : session.isLogging = session.state.logEnabled

/-- Searching the tree keeps to the match limit. -/
theorem Highlights.matchLimit_runQuery {session : Session Tree Query}
    (highlights : session.Highlights)
    : session.runQuery.2.queries.matchLimit = session.queries.matchLimit := by
  cases active : session.state.activeQuery? with
  | none => rw [Session.runQuery, active]
  | some query =>
      obtain ⟨_, _, _, limit⟩ :=
        QueryRunner.run_spec highlights.keeps session.tree session.text query
      rw [runQuery_of_active active]
      exact limit

/-- No call changes the match limit. -/
theorem Highlights.matchLimit_handle {session : Session Tree Query}
    (highlights : session.Highlights) (call : Call)
    : (session.handle call).2.queries.matchLimit = session.queries.matchLimit := by
  cases call with
  | request request =>
      cases request with
      | showAnonymousNodes | enableNodeMapping | selectEditorText | logOutput => rfl
      | enableQuery value =>
          let chosen := { session with state := { session.state with queryEnabled := value } }
          have kept : chosen.Highlights := ⟨highlights.keeps, highlights.colored⟩
          exact kept.matchLimit_runQuery
      | queryNode text =>
          let chosen := { session with state := { session.state with queryText := text } }
          have kept : chosen.Highlights := ⟨highlights.keeps, highlights.colored⟩
          exact kept.matchLimit_runQuery
  | event event =>
      cases event with
      | textChanged changes =>
          have outcome := session.changeText_outcome changes
          simp only [Session.handle, Session.handleEvent]
          generalize session.changeText changes = result at outcome ⊢
          obtain ⟨answer, next⟩ := result
          cases outcome with
          | empty | rejected => rfl
          | @accepted edits text _ _ =>
              let moved := (session.goOver edits text).refresh.2
              have kept : moved.Highlights := ⟨highlights.keeps, highlights.colored⟩
              simp only [requery]
              split
              · exact kept.matchLimit_runQuery
              · rfl
      | selectionChanged | visibleRangeChanged => rfl
      | viewStateChanged =>
          simp only [Session.handle, Session.handleEvent]
          split <;> rfl

/-- Captures that are those of the query stay so: either the query runs again, or what it has does not
change.
-/
theorem HighlightsFrom.stays_current {session last : Session Tree Query} {ran : Prop}
    (stretch : HighlightsFrom session ran last) (current : session.captures = session.evaluation)
    : last.captures = last.evaluation := by
  by_cases runs : ran
  · exact stretch.current runs
  · obtain ⟨captures, evaluation⟩ := stretch.untouched runs
    rw [captures, evaluation]
    exact current

/-- After any calls a session of an opened document has what follows from its document and its
choices.
-/
theorem derives_after {uri text : String} {grammar : LoadedGrammar Tree Query} {matchLimit : Nat}
    {session : Session Tree Query}
    (opened : Session.open uri text grammar matchLimit = .ok session) (calls : List Call)
    : (session.after calls).Derives matchLimit := by
  have started : Started text grammar matchLimit session := .opened uri opened
  obtain ⟨_, rfl⟩ := resume_eq_ok_iff.mp opened
  have shows := after_preserves Shows (fun _ call shows => (shows.handle call).1) started.shows calls
  have highlights := started.highlights.1
  have stretch := highlights.after calls
  have limited := after_preserves
    (fun other => other.Highlights ∧ other.queries.matchLimit = matchLimit)
    (fun _ call held => ⟨(held.1.handle call).highlights,
      (held.1.matchLimit_handle call).trans held.2⟩) ⟨highlights, rfl⟩ calls
  -- The state of a document that is opened has no active query, and nothing is captured yet.
  exact ⟨shows.listed, limited.2, stretch.stays_current rfl, stretch.highlights.colored.names,
    shows.logged⟩

/-- Two sessions agree in all that the view and the editor see of them. -/
structure Agrees (left right : Session Tree Query) : Prop where
  text : left.text = right.text
  tree : left.tree = right.tree
  generation : left.generation = right.generation
  state : left.state = right.state
  captures : left.captures = right.captures
  colors : left.colors = right.colors
  isVisible : left.isVisible = right.isVisible
  isActive : left.isActive = right.isActive
  isLogging : left.isLogging = right.isLogging

/-- Sessions of one document with the same choices agree. -/
theorem SameDocument.agrees {left right : Session Tree Query} {matchLimit : Nat}
    (same : left.SameDocument right) (choices : left.state.SameChoices right.state)
    (uri : left.uri = right.uri) (first : left.Derives matchLimit)
    (second : right.Derives matchLimit)
    : left.Agrees right := by
  have nodes : left.state.nodes = right.state.nodes := by
    rw [first.nodes, second.nodes, same.grammar, same.tree, same.text, choices.anonymousShown]
  have state : left.state = right.state := choices.eq uri nodes
  have captures : left.captures = right.captures := by
    rw [first.captures, second.captures]
    simp only [evaluation, state, first.matchLimit, second.matchLimit, same.grammar, same.tree,
      same.text]
  have names : left.colors.names = right.colors.names := by
    rw [first.colors, second.colors, captures]
  have logging : left.isLogging = right.isLogging := by
    rw [first.logging, second.logging, state]
  exact ⟨same.text, same.tree, same.generation, state, captures,
    congrArg ColorAssigner.mk names, same.isVisible, same.isActive, logging⟩

/-- However the requests of the view and the events of the editor come in between each other, a
document that was opened ends in the same way.  Its text, its tree and where it stands in the editor
are what the events alone lead to, its choices are the last ones that the requests made, and its
nodes, captures and colors follow from these.  Batches and queries that fail make no difference.
-/
theorem interleavings_agree {uri text : String} {grammar : LoadedGrammar Tree Query}
    {matchLimit : Nat} {session : Session Tree Query}
    (opened : Session.open uri text grammar matchLimit = .ok session)
    {requests : List ViewRequest} {events : List EditorEvent} {calls others : List Call}
    (first : Interleaves requests events calls) (second : Interleaves requests events others)
    : (session.after calls).Agrees (session.after others)
      ∧ (session.after calls).SameDocument (session.after (events.map .event))
      ∧ (session.after calls).state.LastChosen { document := uri } requests
      ∧ (session.after calls).Derives matchLimit := by
  have chosen : session.state.SameChoices { document := uri } := by
    obtain ⟨_, rfl⟩ := resume_eq_ok_iff.mp opened
    exact ⟨rfl, rfl, rfl, rfl, rfl⟩
  have document := first.sameDocument (.refl session)
  have otherDocument := second.sameDocument (.refl session)
  have choices := first.lastChosen chosen
  have otherChoices := second.lastChosen chosen
  refine ⟨?_, document, choices, derives_after opened calls⟩
  refine (document.trans otherDocument.symm).agrees (choices.sameChoices otherChoices) ?_
    (derives_after opened calls) (derives_after opened others)
  rw [uri_after, uri_after]

/-- A query is set and a line is added, in one order and in the other, with a query and a batch that
fail.
-/
theorem interleavings_agree_commentLines
    : let requests : List ViewRequest :=
        [.enableQuery true, .queryNode "(row) @line", .queryNode CommentLines.query]
      let events : List EditorEvent :=
        [.textChanged [.ofSpan "//a" 3 0 "\n//é"], .textChanged [.ofSpan "" 0 99 ""]]
      let session := CommentLines.session
      let calls : List Call := requests.map .request ++ events.map .event
      let others : List Call :=
        [.request (.enableQuery true), .event (.textChanged [.ofSpan "//a" 3 0 "\n//é"]),
          .request (.queryNode "(row) @line"), .event (.textChanged [.ofSpan "" 0 99 ""]),
          .request (.queryNode CommentLines.query)]
      Session.open "file:///a.js" "//a" CommentLines.grammar 64 = .ok session
      ∧ Interleaves requests events calls
      ∧ Interleaves requests events others
      ∧ (session.after calls).Agrees (session.after others)
      ∧ (session.after others).captures.map (·.node.text) = ["//a", "//é"]
      ∧ (session.after others).generation = 1 := by
  intro requests events session calls others
  have opened : Session.open "file:///a.js" "//a" CommentLines.grammar 64 = .ok session := rfl
  have first : Interleaves requests events calls :=
    .request _ (.request _ (.request _ (.event _ (.event _ .nil))))
  have second : Interleaves requests events others :=
    .request _ (.event _ (.request _ (.event _ (.request _ .nil))))
  refine ⟨opened, first, second, (interleavings_agree opened first second).1, ?_, ?_⟩
  · decide +kernel
  · decide +kernel

end Session

end SyntaxExplorer
