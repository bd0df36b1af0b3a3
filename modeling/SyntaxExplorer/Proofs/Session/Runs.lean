import SyntaxExplorer.Proofs.Text.Splices
import SyntaxExplorer.Session.Session

/-! Runs of a session: the requests and events that it handles one after another, with the answers.
What a batch of changes can lead to is said once here; all else that a call does can be read off its
definition.
-/

namespace SyntaxExplorer

variable {Tree Query : Type}

/-- An edit that was valid when it was made is valid again before the tree is touched. -/
theorem DocumentParser.update_eq_ok (parser : DocumentParser Tree Query) (tree : Tree)
    {edits : List TreeEdit} (text : String) (valid : ∀ edit ∈ edits, edit.validate = .ok ())
    : parser.update tree edits text
      = .ok (parser.reparse text (some (parser.carry tree edits))) := by
  have all : edits.forM TreeEdit.validate = .ok () := by
    induction edits with
    | nil => rfl
    | cons edit rest ih =>
        have first := valid edit List.mem_cons_self
        have others := ih fun other member => valid other (List.mem_cons_of_mem edit member)
        exact bind_eq_ok_iff.mpr ⟨(), first, others⟩
  rw [update, all]
  rfl

/-- Tracing a parse has no part in its tree. -/
theorem DocumentParser.tree_reparse (parser : DocumentParser Tree Query) (text : String)
    (earlier : Option Tree)
    : (parser.reparse text earlier).tree = (parser.engine.parse text earlier).tree := by
  rw [reparse]
  split <;> rfl

namespace Session

-----------------------------------------------------------------------------------------
-- Calls and runs
-----------------------------------------------------------------------------------------

/-- What is asked of a session: what the view wants, or what happened in the editor. -/
inductive Call
  | request (request : ViewRequest)
  | event (event : EditorEvent)

/-- The batch of changes that a call brings, if it brings one. -/
def Call.batch? : Call → Option (List TextChange)
  | .event (.textChanged changes) => some changes
  | _ => none

/-- Only a change of the text brings a batch. -/
theorem Call.batch?_eq_some_iff {call : Call} {changes : List TextChange}
    : call.batch? = some changes ↔ call = .event (.textChanged changes) := by
  cases call with
  | request => simp [batch?]
  | event event => cases event <;> simp [batch?]

/-- What a session answers: events for the view and the editor, or a failure. -/
abbrev Answer := Except Failure (List ViewEvent)

/-- Handles one call.  Requests of the view never fail. -/
def handle (session : Session Tree Query) : Call → Answer × Session Tree Query
  | .request request =>
      let (events, session) := session.handleRequest request
      (.ok events, session)
  | .event event => session.handleEvent event

/-- The session after some calls. -/
def after (session : Session Tree Query) (calls : List Call) : Session Tree Query :=
  calls.foldl (fun session call => (session.handle call).2) session

/-- Some calls with the answers that the session gives to them in turn. -/
def history (session : Session Tree Query) : List Call → List (Call × Answer)
  | [] => []
  | call :: rest => (call, (session.handle call).1) :: (session.handle call).2.history rest

/-- The batches of changes in a history that were answered without a failure. -/
def accepted (history : List (Call × Answer)) : List (List TextChange) :=
  history.filterMap fun
    | (call, .ok _) => call.batch?
    | (_, .error _) => none

/-- What every call preserves holds after every run, by induction over the calls. -/
theorem after_preserves (Holds : Session Tree Query → Prop)
    (preserved : ∀ session call, Holds session → Holds (session.handle call).2)
    {session : Session Tree Query} (start : Holds session) (calls : List Call)
    : Holds (session.after calls) := by
  induction calls generalizing session with
  | nil => exact start
  | cons call rest ih => exact ih (preserved session call start)

-----------------------------------------------------------------------------------------
-- How sessions start
-----------------------------------------------------------------------------------------

/-- A session comes about when a document is opened, or resumed with a saved state. -/
inductive Started (text : String) (grammar : LoadedGrammar Tree Query) (matchLimit : Nat)
    (session : Session Tree Query)
    : Prop
  | opened (uri : String) (started : Session.open uri text grammar matchLimit = .ok session)
  | resumed (state : ViewState)
    (started : Session.resume state text grammar matchLimit = .ok session)

/-- A session as it is before it first shows its nodes. -/
def unshown (state : ViewState) (text : String) (grammar : LoadedGrammar Tree Query)
    (matchLimit : Nat) : Session Tree Query where
  text
  tree := (grammar.engine.parse text none).tree
  parser := { grammar, isLogging := state.logEnabled }
  state
  queries := { matchLimit }

/-- A document is resumed exactly if the tables of its grammar can be read; then its text is parsed
from scratch and its nodes are shown.
-/
theorem resume_eq_ok_iff {state : ViewState} {text : String}
    {grammar : LoadedGrammar Tree Query} {matchLimit : Nat} {session : Session Tree Query}
    : Session.resume state text grammar matchLimit = .ok session
      ↔ grammar.build.check = .ok ()
        ∧ session = (unshown state text grammar matchLimit).refresh.2 := by
  have tree (parser : DocumentParser Tree Query)
      : (parser.parse text).tree = (parser.engine.parse text none).tree :=
    parser.tree_reparse text none
  rw [Session.resume, DocumentParser.ofGrammar]
  cases checked : grammar.build.check with
  | error reason => simp [bind, Except.bind]
  | ok _ =>
      simp only [bind, Except.bind, tree, pure, Except.pure, Except.ok.injEq, true_and]
      exact eq_comm

/-- Where a document is not resumed, the tables of its grammar cannot be read, which is told. -/
theorem unreadable_of_resume {state : ViewState} {text : String}
    {grammar : LoadedGrammar Tree Query} {matchLimit : Nat} {failure : Failure}
    (failed : Session.resume state text grammar matchLimit = .error failure)
    : ∃ reason,
        grammar.build.check = .error reason
        ∧ failure = .grammarUnavailable grammar.language.name reason := by
  rw [Session.resume, DocumentParser.ofGrammar] at failed
  cases checked : grammar.build.check with
  | error reason =>
      rw [checked] at failed
      cases failed
      exact ⟨reason, rfl, rfl⟩
  | ok _ =>
      rw [checked] at failed
      cases failed

/-- Opening is resuming with a state in which nothing was chosen yet. -/
theorem Started.eq_refresh {text : String} {grammar : LoadedGrammar Tree Query}
    {matchLimit : Nat} {session : Session Tree Query}
    (started : Started text grammar matchLimit session)
    : ∃ state, session = (unshown state text grammar matchLimit).refresh.2 := by
  cases started with
  | opened uri started => exact ⟨_, (resume_eq_ok_iff.mp started).2⟩
  | resumed state started => exact ⟨state, (resume_eq_ok_iff.mp started).2⟩

/-- A session is of the document that its state was saved of. -/
theorem uri_of_resume {state : ViewState} {text : String} {grammar : LoadedGrammar Tree Query}
    {matchLimit : Nat} {session : Session Tree Query}
    (resumed : Session.resume state text grammar matchLimit = .ok session)
    : session.uri = state.document := by
  obtain ⟨_, rfl⟩ := resume_eq_ok_iff.mp resumed
  rfl

-----------------------------------------------------------------------------------------
-- What a batch of changes leads to
-----------------------------------------------------------------------------------------

/-- A session that goes over to a text, its tree carried there by some edits. -/
def goOver (session : Session Tree Query) (edits : List TreeEdit) (text : String)
    : Session Tree Query :=
  let earlier := session.parser.carry session.tree edits
  { session with
    text
    tree := (session.grammar.engine.parse text (some earlier)).tree
    generation := session.generation + 1 }

/-- Runs the query again if there is an active one. -/
def requery (session : Session Tree Query) : List ViewEvent × Session Tree Query :=
  if session.state.activeQuery?.isSome then session.runQuery else ([], session)

/-- The outcomes of a batch: an empty one does nothing, one with a change that does not apply
fails and does nothing, and any other leads to its text, which is then shown and searched.
-/
inductive ChangeOutcome (session : Session Tree Query) (changes : List TextChange)
    : Answer → Session Tree Query → Prop
  | empty (none : changes = []) : session.ChangeOutcome changes (.ok []) session
  | rejected {fault} (some : changes ≠ [])
    (failed : TextChange.applyEach changes session.text = .error fault)
    : session.ChangeOutcome changes (.error (.ofEdit fault)) session
  | accepted {edits text} (some : changes ≠ [])
    (applied : TextChange.applyEach changes session.text = .ok (edits, text))
    : session.ChangeOutcome changes
        (.ok (.refresh (session.goOver edits text).refresh.1
          :: (session.goOver edits text).refresh.2.requery.1))
        (session.goOver edits text).refresh.2.requery.2

/-- Running the query changes what it captured, in which colors, and which query is kept. -/
theorem runQuery_keeps (session : Session Tree Query)
    : ∃ queries colors captures,
        session.runQuery.2 = { session with queries, colors, captures } := by
  rw [runQuery]
  split
  · exact ⟨session.queries, {}, [], rfl⟩
  · rename_i query active
    simp only
    split
    · exact ⟨_, _, _, rfl⟩
    · exact ⟨_, _, _, rfl⟩

/-- Running the query again changes no more than that. -/
theorem requery_keeps (session : Session Tree Query)
    : ∃ queries colors captures,
        session.requery.2 = { session with queries, colors, captures } := by
  rw [requery]
  split
  · exact session.runQuery_keeps
  · exact ⟨session.queries, session.colors, session.captures, rfl⟩

/-- Running the query tells that the decorations were cleared, and how the search ended. -/
theorem runQuery_tells {session : Session Tree Query} {event : ViewEvent}
    (told : event ∈ session.runQuery.1)
    : event = .clearDecorations
      ∨ (∃ captures, event = .queryDone captures)
      ∨ ∃ fault, event = .queryError fault := by
  rw [runQuery] at told
  split at told
  · simp only [List.mem_cons, List.not_mem_nil, or_false] at told
    exact told.imp_right fun done => .inl ⟨[], done⟩
  · simp only at told
    split at told
    · simp only [List.mem_cons, List.not_mem_nil, or_false] at told
      exact told.imp_right fun done => .inl ⟨_, done⟩
    · simp only [List.mem_cons, List.not_mem_nil, or_false] at told
      exact told.imp_right fun failed => .inr ⟨_, failed⟩

/-- Running the query again tells no more than that. -/
theorem requery_tells {session : Session Tree Query} {event : ViewEvent}
    (told : event ∈ session.requery.1)
    : event = .clearDecorations
      ∨ (∃ captures, event = .queryDone captures)
      ∨ ∃ fault, event = .queryError fault := by
  rw [requery] at told
  split at told
  · exact runQuery_tells told
  · cases told

/-- Only a batch of changes leads to another text or tree, or to a later generation. -/
theorem handle_of_no_batch {session : Session Tree Query} {call : Call}
    (none : call.batch? = none)
    : (session.handle call).2.text = session.text
      ∧ (session.handle call).2.tree = session.tree
      ∧ (session.handle call).2.generation = session.generation
      ∧ (session.handle call).2.grammar = session.grammar := by
  cases call with
  | request request =>
      cases request with
      | showAnonymousNodes | enableNodeMapping | selectEditorText | logOutput =>
          exact ⟨rfl, rfl, rfl, rfl⟩
      | enableQuery value =>
          obtain ⟨queries, colors, captures, same⟩ :=
            runQuery_keeps { session with state := { session.state with queryEnabled := value } }
          simp only [handle, handleRequest, same, grammar, and_self]
      | queryNode text =>
          obtain ⟨queries, colors, captures, same⟩ :=
            runQuery_keeps { session with state := { session.state with queryText := text } }
          simp only [handle, handleRequest, same, grammar, and_self]
  | event event =>
      cases event with
      | textChanged changes => cases none
      | selectionChanged | visibleRangeChanged => exact ⟨rfl, rfl, rfl, rfl⟩
      | viewStateChanged visible active =>
          simp only [handle, handleEvent]
          split <;> exact ⟨rfl, rfl, rfl, rfl⟩

/-- A batch with a change that does not apply leaves the session alone. -/
theorem applyChanges_of_error {session : Session Tree Query} {changes : List TextChange}
    {fault : EditFault} (some : changes ≠ [])
    (failed : TextChange.applyEach changes session.text = .error fault)
    : session.applyChanges changes = (.error (.ofEdit fault), session) := by
  rw [applyChanges, if_neg (by simpa using some), failed]
  rfl

/-- A batch of changes that apply takes the session to the text that they lead to: the edits are
valid already, so the second look at them refuses none.
-/
theorem applyChanges_of_ok {session : Session Tree Query} {changes : List TextChange}
    {edits : List TreeEdit} {text : String} (some : changes ≠ [])
    (applied : TextChange.applyEach changes session.text = .ok (edits, text))
    : session.applyChanges changes = (.ok (), session.goOver edits text) := by
  have updated := session.parser.update_eq_ok session.tree text
    (TextChange.valid_of_applyEach applied)
  rw [applyChanges, if_neg (by simpa using some), applied]
  simp only [bind, Except.bind, updated, pure, Except.pure, DocumentParser.tree_reparse]
  rfl

/-- A batch of changes has one of its outcomes, as its changes apply one after another or not. -/
theorem changeText_outcome (session : Session Tree Query) (changes : List TextChange)
    : session.ChangeOutcome changes (session.changeText changes).1
        (session.changeText changes).2 := by
  by_cases none : changes = []
  · subst none
    exact .empty rfl
  · rw [changeText, if_neg (by simpa using none)]
    cases applied : TextChange.applyEach changes session.text with
    | error fault =>
        rw [applyChanges_of_error none applied]
        exact .rejected none applied
    | ok result =>
        obtain ⟨edits, text⟩ := result
        rw [applyChanges_of_ok none applied]
        have outcome := ChangeOutcome.accepted none applied
        simp only [requery] at outcome ⊢
        split
        · rename_i active
          simpa only [if_pos active] using outcome
        · rename_i inactive
          simpa only [if_neg inactive] using outcome

/-- No call makes a session one of another document. -/
theorem uri_handle (session : Session Tree Query) (call : Call)
    : (session.handle call).2.uri = session.uri := by
  cases call with
  | request request =>
      cases request with
      | showAnonymousNodes | enableNodeMapping | selectEditorText | logOutput => rfl
      | enableQuery value =>
          obtain ⟨queries, colors, captures, same⟩ :=
            runQuery_keeps { session with state := { session.state with queryEnabled := value } }
          simp only [handle, handleRequest, same, uri]
      | queryNode text =>
          obtain ⟨queries, colors, captures, same⟩ :=
            runQuery_keeps { session with state := { session.state with queryText := text } }
          simp only [handle, handleRequest, same, uri]
  | event event =>
      cases event with
      | textChanged changes =>
          have outcome := session.changeText_outcome changes
          simp only [handle, handleEvent]
          generalize session.changeText changes = result at outcome ⊢
          obtain ⟨answer, next⟩ := result
          cases outcome with
          | empty | rejected => rfl
          | @accepted edits text _ _ =>
              obtain ⟨queries, colors, captures, same⟩ :=
                (session.goOver edits text).refresh.2.requery_keeps
              simp only [same]
              rfl
      | selectionChanged | visibleRangeChanged => rfl
      | viewStateChanged visible active =>
          simp only [handle, handleEvent]
          split <;> rfl

/-- Calls that follow others go on where those ended. -/
theorem after_append (session : Session Tree Query) (calls more : List Call)
    : session.after (calls ++ more) = (session.after calls).after more :=
  List.foldl_append

/-- No calls make a session one of another document. -/
theorem uri_after (session : Session Tree Query) (calls : List Call)
    : (session.after calls).uri = session.uri :=
  after_preserves (fun other => other.uri = session.uri)
    (fun other call same => (other.uri_handle call).trans same) rfl calls

end Session

end SyntaxExplorer
