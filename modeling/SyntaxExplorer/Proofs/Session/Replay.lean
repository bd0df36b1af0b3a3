import SyntaxExplorer.Proofs.Session.CommentLines

/-! A view that takes over nothing but the events that a session answers with shows what the session
holds.  Decorations are cleared once before each outcome of a search, and at no other time.
-/

namespace SyntaxExplorer

variable {Tree Query : Type}

-----------------------------------------------------------------------------------------
-- Views and what they take over
-----------------------------------------------------------------------------------------

/-- What a view shows: the nodes, and the captures that decorate the text. -/
structure Replica where
  nodes : List FlatNode
  decorations : List Capture := []

namespace Replica

/-- What a view makes of an event. -/
def take (replica : Replica) : ViewEvent → Replica
  | .refresh refresh => { replica with nodes := refresh.nodes }
  | .clearDecorations => { replica with decorations := [] }
  | .queryDone captures => { replica with decorations := captures }
  | _ => replica

/-- What a view makes of some events, one after another. -/
def takeAll (replica : Replica) (events : List ViewEvent) : Replica := events.foldl take replica

/-- A view shows what a session holds. -/
structure Mirrors (replica : Replica) (session : Session Tree Query) : Prop where
  nodes : replica.nodes = session.state.nodes
  decorations : replica.decorations = session.captures

end Replica

/-- The events that tell how a search ended. -/
def ViewEvent.IsOutcome : ViewEvent → Prop
  | .queryDone _ | .queryError _ => True
  | _ => False

/-- The events that leave a view as it is and tell nothing of a search. -/
def ViewEvent.IsPassing : ViewEvent → Prop
  | .refresh _ | .clearDecorations | .queryDone _ | .queryError _ => False
  | _ => True

/-- Decorations are cleared before each outcome of a search, and nowhere else. -/
inductive InTurn : List ViewEvent → Prop
  | nil : InTurn []
  | other {event rest} (noClear : event ≠ .clearDecorations) (noOutcome : ¬ event.IsOutcome)
    (later : InTurn rest)
    : InTurn (event :: rest)
  | search {event rest} (outcome : event.IsOutcome) (later : InTurn rest)
    : InTurn (.clearDecorations :: event :: rest)

/-- Events in turn may follow others, by induction over those. -/
theorem InTurn.append {events later : List ViewEvent} (first : InTurn events)
    (second : InTurn later)
    : InTurn (events ++ later) := by
  induction first with
  | nil => exact second
  | other noClear noOutcome _ ih => exact .other noClear noOutcome ih
  | search outcome _ ih => exact .search outcome ih

/-- Passing events are in turn, by induction over them. -/
theorem InTurn.of_passing {events : List ViewEvent}
    (passing : ∀ event ∈ events, event.IsPassing)
    : InTurn events := by
  induction events with
  | nil => exact .nil
  | cons event rest ih =>
      have first := passing event List.mem_cons_self
      have later := ih fun other member => passing other (List.mem_cons_of_mem event member)
      cases event with
      | refresh | clearDecorations | queryDone | queryError => exact first.elim
      | gotoNode | scroll | selectRange | clearSelection => exact .other nofun id later

/-- Passing events leave a view as it is, by induction over them. -/
theorem Replica.takeAll_of_passing (replica : Replica) {events : List ViewEvent}
    (passing : ∀ event ∈ events, event.IsPassing)
    : replica.takeAll events = replica := by
  induction events with
  | nil => rfl
  | cons event rest ih =>
      have first := passing event List.mem_cons_self
      have later := ih fun other member => passing other (List.mem_cons_of_mem event member)
      cases event with
      | refresh | clearDecorations | queryDone | queryError => exact first.elim
      | gotoNode | scroll | selectRange | clearSelection => exact later

/-- Where some events do not end with a clearing of decorations, they do not with one more in front
that is none.
-/
theorem getLast?_cons_ne_clearDecorations {event : ViewEvent} {events : List ViewEvent}
    (noClear : event ≠ .clearDecorations)
    (last : events.getLast? ≠ some .clearDecorations)
    : (event :: events).getLast? ≠ some .clearDecorations := by
  rw [List.getLast?_cons]
  cases ending : events.getLast? with
  | none => simpa using noClear
  | some other => simpa [ending] using last

/-- An outcome of a search is no clearing of decorations. -/
theorem ViewEvent.IsOutcome.ne_clearDecorations {event : ViewEvent} (outcome : event.IsOutcome)
    : event ≠ .clearDecorations := by
  rintro rfl
  exact outcome

/-- What stands next to a clearing of decorations, or to an outcome of a search, in events that are in
turn: the outcome right after the clearing, and one clearing right before the outcome.  The
induction is on the turns, so that each event is met together with what belongs to it.
-/
theorem InTurn.neighbors {events before after : List ViewEvent} {event : ViewEvent}
    (turn : InTurn events) (split : events = before ++ event :: after)
    : (event = .clearDecorations → ∃ outcome later, after = outcome :: later ∧ outcome.IsOutcome)
      ∧ (event.IsOutcome
        → ∃ earlier,
            before = earlier ++ [.clearDecorations]
            ∧ earlier.getLast? ≠ some .clearDecorations) := by
  induction turn generalizing before with
  | nil => cases before <;> cases split
  | @other first rest noClear noOutcome later ih =>
      cases before with
      | nil =>
          cases split
          exact ⟨fun clear => (noClear clear).elim, fun outcome => (noOutcome outcome).elim⟩
      | cons _ before =>
          cases split
          obtain ⟨cleared, announced⟩ := ih rfl
          refine ⟨cleared, fun outcome => ?_⟩
          obtain ⟨earlier, rfl, last⟩ := announced outcome
          exact ⟨first :: earlier, rfl, getLast?_cons_ne_clearDecorations noClear last⟩
  | @search result rest outcome later ih =>
      cases before with
      | nil =>
          cases split
          exact ⟨fun _ => ⟨result, rest, rfl, outcome⟩, fun clear => clear.elim⟩
      | cons _ before =>
          cases before with
          | nil =>
              cases split
              exact ⟨fun clear => (outcome.ne_clearDecorations clear).elim,
                fun _ => ⟨[], rfl, nofun⟩⟩
          | cons _ before =>
              cases split
              obtain ⟨cleared, announced⟩ := ih rfl
              refine ⟨cleared, fun ended => ?_⟩
              obtain ⟨earlier, rfl, last⟩ := announced ended
              have noClear := outcome.ne_clearDecorations
              refine ⟨.clearDecorations :: result :: earlier, rfl, ?_⟩
              rw [List.getLast?_cons_cons]
              exact getLast?_cons_ne_clearDecorations noClear last

namespace Session

-----------------------------------------------------------------------------------------
-- What one call tells the view
-----------------------------------------------------------------------------------------

/-- Some events relay what becomes of a session: a view that showed what it held shows what it holds
then, and the events are in turn.
-/
structure Relays (session : Session Tree Query) (events : List ViewEvent)
    (next : Session Tree Query)
    : Prop where
  mirrors
    : ∀ replica : Replica, replica.Mirrors session → (replica.takeAll events).Mirrors next
  inTurn : InTurn events

/-- Where neither nodes nor captures change, passing events relay that. -/
theorem Relays.of_same {session next : Session Tree Query} {events : List ViewEvent}
    (passing : ∀ event ∈ events, event.IsPassing)
    (nodes : next.state.nodes = session.state.nodes) (captures : next.captures = session.captures)
    : session.Relays events next where
  mirrors replica shown := by
    rw [replica.takeAll_of_passing passing]
    exact ⟨shown.nodes.trans nodes.symm, shown.decorations.trans captures.symm⟩
  inTurn := .of_passing passing

/-- Where neither nodes nor captures change, nothing is to be told. -/
theorem Relays.of_silent {session next : Session Tree Query}
    (nodes : next.state.nodes = session.state.nodes) (captures : next.captures = session.captures)
    : session.Relays [] next :=
  .of_same (fun _ member => (List.not_mem_nil member).elim) nodes captures

/-- What happens in two steps is relayed by the events of both. -/
theorem Relays.trans {session middle next : Session Tree Query} {events later : List ViewEvent}
    (first : session.Relays events middle) (second : middle.Relays later next)
    : session.Relays (events ++ later) next where
  mirrors replica shown := by
    rw [Replica.takeAll, List.foldl_append]
    exact second.mirrors _ (first.mirrors replica shown)
  inTurn := first.inTurn.append second.inTurn

/-- A refresh is relayed by its event. -/
theorem refresh_relays (session : Session Tree Query)
    : session.Relays [.refresh session.refresh.1] session.refresh.2 where
  mirrors _ shown := ⟨rfl, shown.decorations⟩
  inTurn := .other nofun id .nil

/-- A search is relayed by the clearing of decorations and its outcome.  One that fails leaves no
captures, and the view has none left.
-/
theorem runQuery_relays (session : Session Tree Query)
    : session.Relays session.runQuery.1 session.runQuery.2 := by
  rw [runQuery]
  cases session.state.activeQuery? with
  | none => exact ⟨fun _ shown => ⟨shown.nodes, rfl⟩, .search trivial .nil⟩
  | some query =>
      simp only
      cases (session.queries.run session.grammar session.tree session.text query
        session.colors).captures with
      | ok captures => exact ⟨fun _ shown => ⟨shown.nodes, rfl⟩, .search trivial .nil⟩
      | error failure => exact ⟨fun _ shown => ⟨shown.nodes, rfl⟩, .search trivial .nil⟩

/-- A repeated search is relayed as well. -/
theorem requery_relays (session : Session Tree Query)
    : session.Relays session.requery.1 session.requery.2 := by
  rw [requery]
  split
  · exact session.runQuery_relays
  · exact .of_silent rfl rfl

/-- The answers to a picked span of the text are passing. -/
theorem selectText_passing (session : Session Tree Query) (selection : TextSelection)
    : ∀ event ∈ session.selectText selection, event.IsPassing := by
  rw [selectText]
  split
  · split <;> simp [ViewEvent.IsPassing]
  · simp

/-- The answers to a selection in the editor are passing. -/
theorem followSelection_passing (session : Session Tree Query) (anchor active : Point)
    (kind : SelectionKind)
    : ∀ event ∈ session.followSelection anchor active kind, event.IsPassing := by
  simp only [followSelection, List.mem_append]
  rintro event (cleared | followed)
  · split at cleared
    · cases List.mem_singleton.mp cleared
      trivial
    · cases cleared
  · split at followed
    · obtain ⟨node, _, rfl⟩ := List.mem_map.mp followed
      trivial
    · cases followed

/-- The answer to a request of the view relays what it did. -/
theorem handleRequest_relays (session : Session Tree Query) (request : ViewRequest)
    : session.Relays (session.handleRequest request).1 (session.handleRequest request).2 := by
  cases request with
  | showAnonymousNodes value =>
      let chosen := { session with state := { session.state with anonymousShown := value } }
      have same : session.Relays [] chosen := .of_silent rfl rfl
      exact same.trans chosen.refresh_relays
  | enableNodeMapping | logOutput => exact .of_silent rfl rfl
  | selectEditorText selection => exact .of_same (session.selectText_passing selection) rfl rfl
  | enableQuery value =>
      let chosen := { session with state := { session.state with queryEnabled := value } }
      have same : session.Relays [] chosen := .of_silent rfl rfl
      exact same.trans chosen.runQuery_relays
  | queryNode text =>
      let chosen := { session with state := { session.state with queryText := text } }
      have same : session.Relays [] chosen := .of_silent rfl rfl
      exact same.trans chosen.runQuery_relays

/-- The events of an answer: none of one that is a failure. -/
def Answer.events (answer : Answer) : List ViewEvent := answer.toOption.getD []

/-- The answer to a batch of changes relays what it did.  A batch that fails changes nothing and tells
nothing; any other is shown, and then searched if there is an active query.
-/
theorem changeText_relays (session : Session Tree Query) (changes : List TextChange)
    : session.Relays (Answer.events (session.changeText changes).1)
        (session.changeText changes).2 := by
  have outcome := session.changeText_outcome changes
  generalize session.changeText changes = result at outcome ⊢
  obtain ⟨answer, next⟩ := result
  cases outcome with
  | empty | rejected => exact .of_silent rfl rfl
  | @accepted edits text _ _ =>
      let moved := session.goOver edits text
      have same : session.Relays [] moved := .of_silent rfl rfl
      exact (same.trans moved.refresh_relays).trans moved.refresh.2.requery_relays

/-- Each answer relays what its call did. -/
theorem handle_relays (session : Session Tree Query) (call : Call)
    : session.Relays (Answer.events (session.handle call).1) (session.handle call).2 := by
  cases call with
  | request request => exact session.handleRequest_relays request
  | event event =>
      cases event with
      | textChanged changes => exact session.changeText_relays changes
      | selectionChanged anchor active kind =>
          exact .of_same (session.followSelection_passing anchor active kind) rfl rfl
      | viewStateChanged isVisible isActive =>
          let turned := { session with isVisible, isActive }
          have same : session.Relays [] turned := .of_silent rfl rfl
          simp only [Session.handle, Session.handleEvent]
          split
          · exact same.trans turned.refresh_relays
          · exact same
      | visibleRangeChanged firstLine =>
          refine .of_same (fun event member => ?_) rfl rfl
          cases List.mem_singleton.mp member
          trivial

-----------------------------------------------------------------------------------------
-- Runs
-----------------------------------------------------------------------------------------

/-- All events in the answers of a history, in their order. -/
def emitted (history : List (Call × Answer)) : List ViewEvent :=
  history.flatMap fun (_, answer) => Answer.events answer

/-- The answers of a run relay what it did, by induction over the calls. -/
theorem after_relays (session : Session Tree Query) (calls : List Call)
    : session.Relays (emitted (session.history calls)) (session.after calls) := by
  induction calls generalizing session with
  | nil => exact .of_silent rfl rfl
  | cons call rest ih =>
      rw [history, emitted, List.flatMap_cons]
      exact (session.handle_relays call).trans (ih (session.handle call).2)

/-- A view that starts with the nodes of the refresh that the session published when it was opened or
resumed, without decorations, and takes over the events of all answers in their order, shows after
any calls the nodes and the captures of the session.  In these events each outcome of a search
comes right after one clearing of decorations, and each clearing right before such an outcome.
-/
theorem after_mirrors {text : String} {grammar : LoadedGrammar Tree Query} {matchLimit : Nat}
    {session : Session Tree Query} (started : Started text grammar matchLimit session)
    (calls : List Call)
    : (∃ refresh,
        session.publisher.latest = ⟨0, some refresh⟩
        ∧ let shown := ({ nodes := refresh.nodes } : Replica).takeAll
            (emitted (session.history calls))
          shown.nodes = (session.after calls).state.nodes
          ∧ shown.decorations = (session.after calls).captures)
      ∧ ∀ before event after,
          emitted (session.history calls) = before ++ event :: after
          → (event = .clearDecorations
              → ∃ outcome later, after = outcome :: later ∧ outcome.IsOutcome)
            ∧ (event.IsOutcome
              → ∃ earlier,
                  before = earlier ++ [.clearDecorations]
                  ∧ earlier.getLast? ≠ some .clearDecorations) := by
  obtain ⟨mirrors, inTurn⟩ := session.after_relays calls
  refine ⟨?_, fun before event after split => inTurn.neighbors split⟩
  obtain ⟨state, rfl⟩ := started.eq_refresh
  -- The refresh that was published first is that of the state.
  obtain ⟨nodes, decorations⟩ := mirrors { nodes := _ } ⟨rfl, rfl⟩
  exact ⟨_, rfl, nodes, decorations⟩

/-- A view of a document follows its query and a batch of changes, and not a batch that fails. -/
theorem after_mirrors_commentLines
    : Started "//a" CommentLines.grammar 64 CommentLines.session
      ∧ let calls : List Call :=
          [.request (.queryNode CommentLines.query), .request (.enableQuery true),
            .event (.textChanged [.ofSpan "//a" 3 0 "\n//é"]),
            .event (.textChanged [.ofSpan "" 0 99 ""])]
        let last := CommentLines.session.after calls
        ∃ refresh,
          CommentLines.session.publisher.latest = ⟨0, some refresh⟩
          ∧ let shown := ({ nodes := refresh.nodes } : Replica).takeAll
              (emitted (CommentLines.session.history calls))
            shown.nodes = last.state.nodes
            ∧ shown.nodes.map (·.text) = ["//a\n//é", "//a", "//é"]
            ∧ shown.decorations = last.captures
            ∧ shown.decorations.map (·.node.text) = ["//a", "//é"] := by
  refine ⟨CommentLines.started, ?_⟩
  intro calls last
  obtain ⟨⟨refresh, latest, nodes, decorations⟩, _⟩ := after_mirrors CommentLines.started calls
  refine ⟨refresh, latest, nodes, ?_, decorations, ?_⟩
  · rw [nodes]
    decide +kernel
  · rw [decorations]
    decide +kernel

end Session

end SyntaxExplorer
