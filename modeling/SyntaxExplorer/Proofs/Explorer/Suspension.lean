import SyntaxExplorer.Proofs.Explorer.CommentDocuments
import SyntaxExplorer.Proofs.Explorer.OpenSessions
import SyntaxExplorer.Proofs.Session.Choices
import SyntaxExplorer.Proofs.Store.Restoration

/-! What is left of a view that is suspended.  The session is closed before its state is saved, so a
state that cannot be saved is gone from both places, unless the store had it before.
-/

namespace SyntaxExplorer

open SessionStore

variable {Tree Query : Type}

namespace Explorer

/-- The choices of a view are kept if a session of its document has them, or if the store does. -/
def KeepsView (explorer : Explorer Tree Query) (uri : String) (state : ViewState) : Prop :=
  (∃ opened, explorer.find? uri = some opened ∧ opened.session.state.SameChoices state)
  ∨ ∃ saved, (explorer.store.load uri).1 = .ok (some saved) ∧ saved.SameChoices state

/-- Suspending an open session closes it and then hands its state to the store. -/
theorem suspend_of_open {explorer : Explorer Tree Query} {uri : String}
    {opened : OpenSession Tree Query} (isOpen : explorer.find? uri = some opened)
    (mishap : Option SaveMishap)
    : explorer.suspend uri mishap
      = ((explorer.store.save opened.session.state mishap).1,
          { (explorer.close uri).2 with
            store := (explorer.store.save opened.session.state mishap).2 }) := by
  rw [suspend, close_of_open isOpen]

/-- After suspending no session is open, and the store is as saving left it. -/
theorem suspend_leaves {explorer : Explorer Tree Query} {uri : String}
    {opened : OpenSession Tree Query} (isOpen : explorer.find? uri = some opened)
    (mishap : Option SaveMishap)
    : (explorer.suspend uri mishap).2.find? uri = none
      ∧ (explorer.suspend uri mishap).2.store
        = (explorer.store.save opened.session.state mishap).2 := by
  rw [suspend_of_open isOpen]
  exact ⟨explorer.find?_close_self uri, rfl⟩

/-- Suspending an open session saves its state, with all that may come of that. -/
theorem suspend_outcome {explorer : Explorer Tree Query} {uri : String}
    {opened : OpenSession Tree Query} (isOpen : explorer.find? uri = some opened)
    (mishap : Option SaveMishap)
    : SaveOutcome explorer.store opened.session.state mishap (explorer.suspend uri mishap).1
        (explorer.suspend uri mishap).2.store := by
  rw [suspend_of_open isOpen]
  exact explorer.store.save_outcome opened.session.state mishap

/-- What was suspended without a failure is in the file of its document. -/
theorem read_of_suspend {explorer : Explorer Tree Query} {uri file : String}
    {opened : OpenSession Tree Query} {mishap : Option SaveMishap}
    (isOpen : explorer.find? uri = some opened)
    (suspended : (explorer.suspend uri mishap).1 = .ok file)
    : file = fileOf opened.session.uri
      ∧ (explorer.suspend uri mishap).2.store.read file
        = .ok (ViewState.format.pack opened.session.state) := by
  have outcome := suspend_outcome isOpen mishap
  rw [suspended] at outcome
  exact outcome.read_of_ok

-----------------------------------------------------------------------------------------
-- What a failure leaves
-----------------------------------------------------------------------------------------

/-- What is left of a view whose state could not be saved.  Its session is closed all the same.  The
file of its document is as before or has the first bytes of the state, and all other files are as
before.  So the choices of the view are kept only if they were saved before and its file still is
what it was then.
-/
structure Leaves (explorer next : Explorer Tree Query) (uri : String) (state : ViewState)
    : Prop where
  closed : next.find? uri = none
  others
    : ∀ name,
        name ≠ fileOf state.document → next.store.find? name = explorer.store.find? name
  file
    : next.store.find? (fileOf state.document) = explorer.store.find? (fileOf state.document)
      ∨ ∃ room,
          room < (ViewState.format.pack state).length
          ∧ next.store.find? (fileOf state.document)
            = some (.file ((ViewState.format.pack state).take room))
  kept
    : state.document = uri
      → ViewState.format.Fits state
      → (next.KeepsView uri state
        ↔ next.store.find? (fileOf uri) = explorer.store.find? (fileOf uri)
          ∧ ∃ saved,
              (explorer.store.load uri).1 = .ok (some saved) ∧ saved.SameChoices state)

/-- A state that could not be saved leaves this of its view. -/
theorem leaves_of_error {explorer next : Explorer Tree Query} {uri : String} {state : ViewState}
    {mishap : Option SaveMishap} {failure : Failure} (closed : next.find? uri = none)
    (outcome : SaveOutcome explorer.store state mishap (.error failure) next.store)
    : explorer.Leaves next uri state where
  closed := closed
  others name different := outcome.find?_of_ne different
  file := outcome.find?_of_error
  kept := by
    rintro rfl fits
    have stored : next.KeepsView state.document state
        ↔ ∃ saved, next.store.Has state.document saved ∧ saved.SameChoices state := by
      simp only [KeepsView, closed, reduceCtorEq, false_and, exists_false, false_or,
        load_eq_some_iff]
    rw [stored]
    simp only [load_eq_some_iff]
    rcases outcome.find?_of_error with same | ⟨room, short, cut⟩
    · have agree (saved : ViewState)
          : next.store.Has state.document saved ↔ explorer.store.Has state.document saved :=
        has_congr same
      simp only [agree, same, true_and]
    · -- Nothing is read of the first bytes, here or from the same file before.
      have unread := ViewState.unpack?_take_pack fits short
      have lacks (saved : ViewState) : ¬ next.store.Has state.document saved := by
        rintro ⟨⟨bytes, found, decoded⟩, _⟩
        cases cut.symm.trans found
        cases unread.symm.trans decoded
      refine ⟨fun ⟨saved, has, _⟩ => (lacks saved has).elim, ?_⟩
      rintro ⟨same, saved, has, _⟩
      exact (lacks saved ((has_congr same).mpr has)).elim

/-- Whatever goes wrong while its state is saved, suspending an open session closes it: it fails
exactly if the store refuses the state or a mishap strikes, and then the choices of the view are lost
unless they were saved before and their file was not emptied.  A suspension that succeeds has the
state in the file of its document.
-/
theorem suspend_losesView {explorer : Explorer Tree Query} {uri : String}
    {opened : OpenSession Tree Query} (isOpen : explorer.find? uri = some opened)
    (mishap : Option SaveMishap)
    : let state := opened.session.state
      let answer := (explorer.suspend uri mishap).1
      let next := (explorer.suspend uri mishap).2
      ((∃ failure, answer = .error failure) ↔ explorer.store.CannotSave state mishap)
      ∧ (∀ failure, answer = .error failure → explorer.Leaves next uri state)
      ∧ ∀ file,
          answer = .ok file
          → next.find? uri = none
            ∧ file = fileOf state.document
            ∧ next.store.read file = .ok (ViewState.format.pack state) := by
  intro state answer next
  have outcome : SaveOutcome explorer.store state mishap answer next.store :=
    suspend_outcome isOpen mishap
  have closed : next.find? uri = none := (suspend_leaves isOpen mishap).1
  refine ⟨outcome.fails_iff, fun failure failed => ?_, fun file saved => ?_⟩
  · rw [failed] at outcome
    exact leaves_of_error closed outcome
  · exact ⟨closed, read_of_suspend isOpen saved⟩

/-- The state of a view in which nothing was chosen. -/
def plainState : ViewState := { document := "file:///a.js" }

/-- A store in which that state was saved. -/
def plainStore : SessionStore := (SessionStore.save .missing plainState).2

/-- The store has the state. -/
theorem plainStore_has : plainStore.Has plainState.document plainState := by
  have fits : ViewState.format.Fits plainState := by decide +kernel
  have accepts : ¬ Refuses .missing plainState.document := by simp [Refuses, Folder.find?]
  exact has_of_save fits (congrArg (·.1) (save_of_not_refuses accepts))

/-- A view with a query is suspended while there is room for 16 bytes only.  Neither its query nor the
choices that were saved of it before can be loaded any more.
-/
theorem suspend_losesView_commentLines
    : let uri := plainState.document
      let explorer := ((CommentLines.explorer plainStore).open (CommentLines.document uri "//a")).2
      let chosen :=
        (explorer.withSession uri (·.handleRequest (.queryNode CommentLines.query))).2
      let mishap := SaveMishap.cutShort 16 .storageFull
      ∃ opened,
        chosen.find? uri = some opened
        ∧ opened.session.state.queryText = CommentLines.query
        ∧ (∃ failure, (chosen.suspend uri (some mishap)).1 = .error failure)
        ∧ ¬ (chosen.suspend uri (some mishap)).2.KeepsView uri opened.session.state := by
  intro uri explorer chosen mishap
  let state := { CommentLines.session.state with queryText := CommentLines.query }
  have isOpen : ∃ opened, chosen.find? uri = some opened ∧ opened.session.state = state :=
    ⟨_, rfl, rfl⟩
  obtain ⟨opened, found, same⟩ := isOpen
  obtain ⟨fails, leaves, _⟩ := suspend_losesView found (some mishap)
  rw [same] at fails leaves
  have short : 16 < (ViewState.format.pack state).length := by decide +kernel
  obtain ⟨failure, failed⟩ := fails.mpr (.inr ⟨mishap, rfl, short⟩)
  refine ⟨opened, found, congrArg (·.queryText) same, ⟨failure, failed⟩, ?_⟩
  rw [same, (leaves failure failed).kept rfl (by decide +kernel)]
  rintro ⟨_, saved, loaded, choices⟩
  -- What was saved before has no query.
  have unchanged : chosen.store = plainStore := rfl
  rw [unchanged, plainStore_has.load] at loaded
  obtain rfl : plainState = saved := Option.some.inj (Except.ok.inj loaded)
  exact absurd choices.queryText (by decide)

/-- With a file in the place of the store's folder, suspending a view forgets its query: no session
is open any more, and nothing can be loaded.
-/
theorem suspend_forgets_query
    : let uri := "file:///a.js"
      let explorer := ((CommentLines.explorer .blocked).open (CommentLines.document uri "//a")).2
      let chosen :=
        (explorer.withSession uri (·.handleRequest (.queryNode CommentLines.query))).2
      ∃ opened failure,
        chosen.find? uri = some opened
        ∧ opened.session.state.queryText = CommentLines.query
        ∧ (chosen.suspend uri).1 = .error failure
        ∧ ¬ (chosen.suspend uri).2.KeepsView uri opened.session.state := by
  intro uri explorer chosen
  refine ⟨_, _, rfl, rfl, rfl, ?_⟩
  rintro (⟨still, found, _⟩ | ⟨saved, found, _⟩)
  · cases found
  · cases found

end Explorer

end SyntaxExplorer
