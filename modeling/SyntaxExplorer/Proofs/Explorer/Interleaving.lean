import Mathlib.Logic.Function.Iterate
import SyntaxExplorer.Proofs.Explorer.OpenSessions

/-! Calls of an explorer that run at one time.  A call looks for an open session, waits for its grammar,
builds a session and files it; between any two of these steps other calls may take theirs.  A call
that none interrupts does what opening or resuming does.
-/

namespace SyntaxExplorer.Explorer

variable {Tree Query : Type}

-----------------------------------------------------------------------------------------
-- The steps of a call
-----------------------------------------------------------------------------------------

/-- What a call asks for: to open a document, or to resume the view of one. -/
inductive Request
  | opening (document : Document)
  | resuming (state : ViewState)

/-- The address of the document that a call asks for. -/
def Request.uri : Request → String
  | opening document => document.uri
  | resuming state => state.document

/-- The view that a session of a call starts with. -/
def Request.state : Request → ViewState
  | opening document => { document := document.uri }
  | resuming state => state

/-- How far a call has come, and what it has got so far. -/
inductive Stage (Tree Query : Type)
  | asking
  | checking (document : Document)
  | loading (document : Document)
  | building (document : Document) (grammar : LoadedGrammar Tree Query)
  | committing (document : Document) (session : Session Tree Query)
  | returned (answer : Option (OpenSession Tree Query))

/-- The call has come to its end, with a session or without one. -/
def Stage.HasReturned : Stage Tree Query → Prop
  | .returned _ => True
  | _ => False

/-- A call that opens a document has it; one that resumes a view has yet to ask for it. -/
def Request.stage : Request → Stage Tree Query
  | opening document => .checking document
  | resuming _ => .asking

/-- What the host and the registry answer while a call takes a step. -/
structure Surroundings (Tree Query : Type) where
  host : Host
  grammars : LanguageId → Except Failure (LoadedGrammar Tree Query)

/-- One step of a call.  A call that fails returns nothing. -/
def advance (explorer : Explorer Tree Query) (request : Request)
    (surroundings : Surroundings Tree Query)
    : Stage Tree Query → Stage Tree Query × Explorer Tree Query
  | .asking =>
      if explorer.isAddress request.uri then
        match surroundings.host request.uri with
        | .ok document => (.checking document, explorer)
        | .error _ => (.returned none, explorer)
      else (.returned none, explorer)
  | .checking document =>
      match explorer.find? request.uri with
      | some existing => (.returned (some existing), explorer)
      | none => (.loading document, explorer)
  | .loading document =>
      match surroundings.grammars document.language with
      | .ok grammar => (.building document grammar, explorer)
      | .error _ => (.returned none, explorer)
  | .building document grammar =>
      match Session.resume request.state document.text grammar explorer.matchLimit with
      | .ok session => (.committing document session, explorer)
      | .error _ => (.returned none, explorer)
  | .committing document session =>
      let (opened, explorer) := explorer.commit document.uri session
      (.returned (some opened), explorer)
  | .returned answer => (.returned answer, explorer)

/-- What comes of a step of a call: it gets its document, its grammar or its session, finds an open
session or none, files its own, or fails.  Only filing reaches the explorer.
-/
inductive Progress (explorer : Explorer Tree Query) (request : Request)
    (surroundings : Surroundings Tree Query)
    : Stage Tree Query → Stage Tree Query → Explorer Tree Query → Prop
  | answered {document} (answer : surroundings.host request.uri = .ok document)
    : Progress explorer request surroundings .asking (.checking document) explorer
  | found {document existing} (isOpen : explorer.find? request.uri = some existing)
    : Progress explorer request surroundings (.checking document) (.returned (some existing))
        explorer
  | missed (document : Document)
    : Progress explorer request surroundings (.checking document) (.loading document) explorer
  | loaded (document : Document) (grammar : LoadedGrammar Tree Query)
    : Progress explorer request surroundings (.loading document) (.building document grammar)
        explorer
  | built {document grammar session}
    (resumed : Session.resume request.state document.text grammar explorer.matchLimit
      = .ok session)
    : Progress explorer request surroundings (.building document grammar)
        (.committing document session) explorer
  | committed (document : Document) (session : Session Tree Query)
    : Progress explorer request surroundings (.committing document session)
        (.returned (some (explorer.commit document.uri session).1))
        (explorer.commit document.uri session).2
  | failed {stage} (pending : ¬ stage.HasReturned)
    : Progress explorer request surroundings stage (.returned none) explorer
  | rested (answer : Option (OpenSession Tree Query))
    : Progress explorer request surroundings (.returned answer) (.returned answer) explorer

/-- One of these comes of each step. -/
theorem advance_progress (explorer : Explorer Tree Query) (request : Request)
    (surroundings : Surroundings Tree Query) (stage : Stage Tree Query)
    : Progress explorer request surroundings stage
        (advance explorer request surroundings stage).1
        (advance explorer request surroundings stage).2 := by
  cases stage with
  | asking =>
      rw [advance]
      split
      · cases answer : surroundings.host request.uri with
        | ok document => exact .answered answer
        | error _ => exact .failed id
      · exact .failed id
  | checking document =>
      rw [advance]
      cases isOpen : explorer.find? request.uri with
      | some existing => exact .found isOpen
      | none => exact .missed document
  | loading document =>
      rw [advance]
      cases surroundings.grammars document.language with
      | ok grammar => exact .loaded document grammar
      | error _ => exact .failed id
  | building document grammar =>
      rw [advance]
      cases resumed : Session.resume request.state document.text grammar explorer.matchLimit with
      | ok session => exact .built resumed
      | error _ => exact .failed id
  | committing document session => exact .committed document session
  | returned answer => exact .rested answer

-----------------------------------------------------------------------------------------
-- A call that none interrupts
-----------------------------------------------------------------------------------------

/-- One step of a call, from where the call and the explorer are. -/
def Request.step (request : Request) (surroundings : Surroundings Tree Query)
    (reached : Stage Tree Query × Explorer Tree Query)
    : Stage Tree Query × Explorer Tree Query :=
  advance reached.2 request surroundings reached.1

/-- A call that takes all of its steps one after another. -/
def Request.alone (request : Request) (explorer : Explorer Tree Query)
    (surroundings : Surroundings Tree Query) : Stage Tree Query × Explorer Tree Query :=
  (request.step surroundings)^[5] (request.stage, explorer)

/-- A call that has returned takes no more steps. -/
theorem Request.step_returned (request : Request) (surroundings : Surroundings Tree Query)
    (answer : Option (OpenSession Tree Query)) (explorer : Explorer Tree Query) (count : Nat)
    : (request.step surroundings)^[count] (.returned answer, explorer)
      = (.returned answer, explorer) :=
  Function.iterate_fixed rfl count

/-- The steps behind the check make a session and file it. -/
theorem Request.step_create {explorer : Explorer Tree Query} {request : Request}
    {surroundings : Surroundings Tree Query} {document : Document}
    (loads : surroundings.grammars document.language
      = (explorer.registry.get document.language).1)
    : (request.step surroundings)^[3] (.loading document, explorer)
      = (.returned (explorer.create request.state document).1.toOption,
          { (explorer.create request.state document).2 with registry := explorer.registry }) := by
  rw [create]
  simp only [Function.iterate_succ, Function.iterate_zero, Function.comp_apply, id_eq, step,
    advance, loads]
  rcases explorer.registry.get document.language with ⟨_ | grammar, registry⟩
  · rfl
  · cases built : Session.resume request.state document.text grammar explorer.matchLimit with
    | error failure => simp [built, Except.toOption]
    | ok session =>
        simp only [built, commit_with_registry]
        rw [← explorer.registry_commit document.uri session]
        rfl

/-- A call that looks for a session and finds none makes one. -/
theorem Request.step_check {explorer : Explorer Tree Query} {request : Request}
    {surroundings : Surroundings Tree Query} {document : Document}
    (loads : surroundings.grammars document.language
      = (explorer.registry.get document.language).1)
    (vacant : explorer.find? request.uri = none)
    : (request.step surroundings)^[4] (.checking document, explorer)
      = (.returned (explorer.create request.state document).1.toOption,
          { (explorer.create request.state document).2 with registry := explorer.registry }) := by
  have checked : request.step surroundings (.checking document, explorer)
      = (.loading document, explorer) := by
    simp only [step, advance, vacant]
  rw [Function.iterate_succ_apply, checked, step_create loads]

/-- Opening a document is a call that none interrupts, but for the grammars that are kept. -/
theorem alone_opening {explorer : Explorer Tree Query} {surroundings : Surroundings Tree Query}
    (loads : ∀ language, surroundings.grammars language = (explorer.registry.get language).1)
    (document : Document)
    : (Request.opening document).alone explorer surroundings
      = (.returned (explorer.open document).1.toOption,
          { (explorer.open document).2 with registry := explorer.registry }) := by
  rw [Explorer.open, Request.alone, Request.stage]
  cases present : explorer.find? document.uri with
  | some existing =>
      have checked : (Request.opening document).step surroundings (.checking document, explorer)
          = (.returned (some existing), explorer) := by
        simp only [Request.step, advance, Request.uri, present]
      rw [Function.iterate_succ_apply, checked, Request.step_returned]
      rfl
  | none =>
      have vacant : explorer.find? (Request.opening document).uri = none := present
      rw [Function.iterate_succ_apply', Request.step_check (loads _) vacant]
      rfl

/-- Resuming a view is a call that none interrupts, but for the grammars that are kept. -/
theorem alone_resuming {explorer : Explorer Tree Query} {surroundings : Surroundings Tree Query}
    (loads : ∀ language, surroundings.grammars language = (explorer.registry.get language).1)
    (state : ViewState)
    : (Request.resuming state).alone explorer surroundings
      = (.returned (explorer.resume state surroundings.host).1,
          { (explorer.resume state surroundings.host).2 with
            registry := explorer.registry }) := by
  have failed (asked : (Request.resuming state).step surroundings (.asking, explorer)
        = (.returned none, explorer))
      : (Request.resuming state).alone explorer surroundings = (.returned none, explorer) := by
    rw [Request.alone, Request.stage, Function.iterate_succ_apply, asked, Request.step_returned]
  rw [Explorer.resume]
  by_cases valid : explorer.isAddress state.document
  · rw [if_pos valid]
    cases answered : surroundings.host state.document with
    | error fault =>
        exact failed (by simp only [Request.step, advance, Request.uri, valid, answered, if_true])
    | ok document =>
        have asked : (Request.resuming state).step surroundings (.asking, explorer)
            = (.checking document, explorer) := by
          simp only [Request.step, advance, Request.uri, valid, answered, if_true]
        rw [Request.alone, Request.stage, Function.iterate_succ_apply, asked]
        cases present : explorer.find? state.document with
        | some existing =>
            have checked : (Request.resuming state).step surroundings (.checking document, explorer)
                = (.returned (some existing), explorer) := by
              simp only [Request.step, advance, Request.uri, present]
            rw [Function.iterate_succ_apply, checked, Request.step_returned]
        | none =>
            have vacant : explorer.find? (Request.resuming state).uri = none := present
            rw [Request.step_check (loads _) vacant]
            rfl
  · rw [if_neg valid]
    exact failed (by simp only [Request.step, advance, Request.uri, valid]; rfl)

end SyntaxExplorer.Explorer
