import SyntaxExplorer.Proofs.Session.CommentLines

/-! What a session lists, what it published last and whether it traces agree after every call.
Generations only grow, so the publisher never takes a refresh of its own session for a stale one.
-/

namespace SyntaxExplorer.Session

variable {Tree Query : Type}

/-- A session shows what it holds: its nodes are those of its tree and its text, the latest refresh
that was published is of its generation and has its document, its nodes and its choice of nodes,
and parses are traced as its state has it.
-/
structure Shows (session : Session Tree Query) : Prop where
  listed
    : session.state.nodes
      = session.grammar.engine.listing session.tree session.text session.state.anonymousShown
  published
    : ∃ refresh,
        session.publisher.latest = ⟨session.generation, some refresh⟩
        ∧ refresh.nodes = session.state.nodes
        ∧ refresh.document = session.state.document
        ∧ refresh.anonymousShown = session.state.anonymousShown
  logged : session.isLogging = session.state.logEnabled

/-- A refresh is current if it is the state of a session and what that published last. -/
def IsCurrent (session : Session Tree Query) (refresh : Refresh) : Prop :=
  refresh = session.state.refresh
  ∧ session.publisher.latest = ⟨session.generation, some refresh⟩

/-- Every refresh among some events is current. -/
def AllCurrent (session : Session Tree Query) (events : List ViewEvent) : Prop :=
  ∀ refresh, .refresh refresh ∈ events → session.IsCurrent refresh

/-- A session that has published nothing later shows what it holds once it is refreshed. -/
theorem refresh_shows (session : Session Tree Query)
    (inTime : session.publisher.isStale session.generation = false)
    (logged : session.isLogging = session.state.logEnabled)
    : session.refresh.2.Shows ∧ session.refresh.2.IsCurrent session.refresh.1 := by
  have latest : session.refresh.2.publisher.latest
      = ⟨session.generation, some session.refresh.1⟩ := by
    simp [refresh, Publisher.publish, inTime]
  exact ⟨⟨rfl, ⟨session.refresh.1, latest, rfl, rfl, rfl⟩, logged⟩, rfl, latest⟩

/-- What was published of an earlier generation does not make a refresh stale. -/
theorem Shows.inTime {session : Session Tree Query} (shows : session.Shows) {generation : Nat}
    (later : session.generation ≤ generation)
    : session.publisher.isStale generation = false := by
  obtain ⟨refresh, latest, _⟩ := shows.published
  simp only [Publisher.isStale, latest, Option.isSome_some, Bool.true_and,
    decide_eq_false_iff_not]
  omega

/-- A session shows what it holds from the start. -/
theorem Started.shows {text : String} {grammar : LoadedGrammar Tree Query} {matchLimit : Nat}
    {session : Session Tree Query} (started : Started text grammar matchLimit session)
    : session.Shows := by
  obtain ⟨state, rfl⟩ := started.eq_refresh
  exact (refresh_shows _ rfl rfl).1

/-- Searching the tree has no part in what is shown. -/
theorem Shows.runQuery {session : Session Tree Query} (shows : session.Shows)
    : session.runQuery.2.Shows := by
  obtain ⟨queries, colors, captures, same⟩ := session.runQuery_keeps
  rw [same]
  exact ⟨shows.listed, shows.published, shows.logged⟩

/-- The events of a search carry no refresh. -/
theorem refresh_notMem_runQuery (session : Session Tree Query) (refresh : Refresh)
    : .refresh refresh ∉ session.runQuery.1 := by
  intro told
  rcases runQuery_tells told with same | ⟨_, same⟩ | ⟨_, same⟩ <;> cases same

/-- The events of a repeated search carry no refresh. -/
theorem refresh_notMem_requery (session : Session Tree Query) (refresh : Refresh)
    : .refresh refresh ∉ session.requery.1 := by
  intro told
  rcases requery_tells told with same | ⟨_, same⟩ | ⟨_, same⟩ <;> cases same

/-- A picked span of the text is answered without a refresh. -/
theorem refresh_notMem_selectText (session : Session Tree Query) (selection : TextSelection)
    (refresh : Refresh)
    : .refresh refresh ∉ session.selectText selection := by
  rw [selectText]
  split
  · split <;> simp
  · simp

/-- A selection in the editor is followed without a refresh. -/
theorem refresh_notMem_followSelection (session : Session Tree Query) (anchor active : Point)
    (kind : SelectionKind) (refresh : Refresh)
    : .refresh refresh ∉ session.followSelection anchor active kind := by
  simp only [followSelection, List.mem_append, not_or]
  constructor
  · split <;> simp
  · split <;> simp

/-- A request of the view is followed by what it asked to be shown. -/
theorem Shows.handleRequest {session : Session Tree Query} (shows : session.Shows)
    (request : ViewRequest)
    : (session.handleRequest request).2.Shows
      ∧ (session.handleRequest request).2.AllCurrent (session.handleRequest request).1 := by
  cases request with
  | showAnonymousNodes value =>
      let chosen := { session with state := { session.state with anonymousShown := value } }
      obtain ⟨next, current⟩ := refresh_shows chosen
        (shows.inTime (Nat.le_refl _)) shows.logged
      refine ⟨next, fun refresh member => ?_⟩
      cases List.mem_singleton.mp member
      exact current
  | enableNodeMapping value =>
      exact ⟨⟨shows.listed, shows.published, shows.logged⟩, fun _ member => by cases member⟩
  | selectEditorText selection =>
      exact ⟨shows, fun refresh member =>
        (session.refresh_notMem_selectText selection refresh member).elim⟩
  | enableQuery value =>
      let chosen := { session with state := { session.state with queryEnabled := value } }
      have kept : chosen.Shows := ⟨shows.listed, shows.published, shows.logged⟩
      exact ⟨kept.runQuery, fun refresh member =>
        (chosen.refresh_notMem_runQuery refresh member).elim⟩
  | queryNode text =>
      let chosen := { session with state := { session.state with queryText := text } }
      have kept : chosen.Shows := ⟨shows.listed, shows.published, shows.logged⟩
      exact ⟨kept.runQuery, fun refresh member =>
        (chosen.refresh_notMem_runQuery refresh member).elim⟩
  | logOutput value =>
      exact ⟨⟨shows.listed, shows.published, rfl⟩, fun _ member => by cases member⟩

/-- A batch of changes is followed by what it led to.  The generation that it leads to is later
than the one that was published, and the search after it leaves the refresh as it is.
-/
theorem Shows.changeText {session : Session Tree Query} (shows : session.Shows)
    (changes : List TextChange)
    : (session.changeText changes).2.Shows
      ∧ ∀ events,
          (session.changeText changes).1 = .ok events
          → (session.changeText changes).2.AllCurrent events := by
  have outcome := session.changeText_outcome changes
  generalize session.changeText changes = result at outcome ⊢
  obtain ⟨answer, next⟩ := result
  cases outcome with
  | empty none =>
      refine ⟨shows, ?_⟩
      rintro _ ⟨⟩ refresh member
      cases member
  | rejected some failed => exact ⟨shows, fun _ answered => by cases answered⟩
  | @accepted edits text some applied =>
      obtain ⟨refreshed, current⟩ := refresh_shows (session.goOver edits text)
        (shows.inTime (Nat.le_succ _)) shows.logged
      have silent := (session.goOver edits text).refresh.2.refresh_notMem_requery
      obtain ⟨queries, colors, captures, same⟩ :=
        (session.goOver edits text).refresh.2.requery_keeps
      simp only [same]
      refine ⟨⟨refreshed.listed, refreshed.published, refreshed.logged⟩, ?_⟩
      rintro _ ⟨⟩ refresh member
      rcases List.mem_cons.mp member with first | later
      · cases first
        exact current
      · exact (silent refresh later).elim

/-- An event of the editor is followed by what it led to. -/
theorem Shows.handleEvent {session : Session Tree Query} (shows : session.Shows)
    (event : EditorEvent)
    : (session.handleEvent event).2.Shows
      ∧ ∀ events,
          (session.handleEvent event).1 = .ok events
          → (session.handleEvent event).2.AllCurrent events := by
  cases event with
  | textChanged changes => exact shows.changeText changes
  | selectionChanged anchor active kind =>
      refine ⟨shows, ?_⟩
      rintro _ ⟨⟩ refresh member
      exact (session.refresh_notMem_followSelection anchor active kind refresh member).elim
  | viewStateChanged isVisible isActive =>
      let turned := { session with isVisible, isActive }
      simp only [Session.handleEvent]
      split
      · obtain ⟨next, current⟩ := refresh_shows turned
          (shows.inTime (Nat.le_refl _)) shows.logged
        refine ⟨next, ?_⟩
        rintro _ ⟨⟩ refresh member
        cases List.mem_singleton.mp member
        exact current
      · refine ⟨⟨shows.listed, shows.published, shows.logged⟩, ?_⟩
        rintro _ ⟨⟩ refresh member
        cases member
  | visibleRangeChanged firstLine =>
      refine ⟨shows, ?_⟩
      rintro _ ⟨⟩ refresh member
      simp at member

/-- Each call leaves a session that shows what it holds, and answers with current refreshes. -/
theorem Shows.handle {session : Session Tree Query} (shows : session.Shows) (call : Call)
    : (session.handle call).2.Shows
      ∧ ∀ events,
          (session.handle call).1 = .ok events
          → (session.handle call).2.AllCurrent events := by
  cases call with
  | request request =>
      obtain ⟨next, current⟩ := shows.handleRequest request
      refine ⟨next, ?_⟩
      rintro _ ⟨⟩
      exact current
  | event event => exact shows.handleEvent event

/-- After any requests and events, failed ones included, a session shows what it holds: its nodes
are those of its tree, the latest refresh is of its generation and has them, and it traces as it
was asked to.  Every refresh with which it then answers a call is its state after that call, and
what it published last.
-/
theorem after_shows {text : String} {grammar : LoadedGrammar Tree Query} {matchLimit : Nat}
    {session : Session Tree Query} (started : Started text grammar matchLimit session)
    (calls : List Call)
    : (session.after calls).Shows
      ∧ ∀ call events,
          ((session.after calls).handle call).1 = .ok events
          → ((session.after calls).handle call).2.AllCurrent events := by
  have shows : (session.after calls).Shows :=
    after_preserves Shows (fun _ call shows => (shows.handle call).1) started.shows calls
  exact ⟨shows, fun call => (shows.handle call).2⟩

/-- A session whose second batch fails goes on showing what the first led to. -/
theorem after_shows_commentLines
    : Started "//a" CommentLines.grammar 64 CommentLines.session
      ∧ let calls : List Call :=
          [.event (.textChanged [.ofSpan "//a" 3 0 "\n//é"]), .request (.logOutput true),
            .event (.textChanged [.ofSpan "" 0 99 ""])]
        (CommentLines.session.after calls).Shows
        ∧ (CommentLines.session.after calls).state.nodes.map (·.text) = ["//a\n//é", "//a", "//é"]
        ∧ (CommentLines.session.after calls).publisher.latest.generation = 1
        ∧ (CommentLines.session.after calls).isLogging = true := by
  refine ⟨CommentLines.started, (after_shows CommentLines.started _).1, ?_, ?_, ?_⟩
  · decide +kernel
  · decide +kernel
  · decide +kernel

end SyntaxExplorer.Session
