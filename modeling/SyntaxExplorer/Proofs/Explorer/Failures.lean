import SyntaxExplorer.Proofs.Explorer.Discarding
import SyntaxExplorer.Proofs.Explorer.Sparing

/-! Opening and resuming that fail change nothing but which grammars are kept.  A saved state that
could not be resumed is still there, and is resumed once its document and its grammar can be had.
-/

namespace SyntaxExplorer.Explorer

open SessionStore

variable {Tree Query : Type}

/-- Where no session could be made, only the grammars that are kept may be others. -/
theorem CreateOutcome.of_error {explorer next : Explorer Tree Query} {state : ViewState}
    {document : Document} {failure : Failure}
    (outcome : CreateOutcome explorer state document (.error failure) next)
    : ∃ registry, next = { explorer with registry } := by
  cases outcome with
  | failed failure registry => exact ⟨registry, rfl⟩

/-- Where no session is returned for a view, only the grammars that are kept may be others. -/
theorem ResumeOutcome.of_none {explorer next : Explorer Tree Query} {state : ViewState}
    {host : Host} {answer : Option (OpenSession Tree Query)}
    (outcome : ResumeOutcome explorer state host answer next) (skipped : answer = none)
    : ∃ registry, next = { explorer with registry } := by
  cases outcome with
  | skipped => exact ⟨explorer.registry, rfl⟩
  | revealed => cases skipped
  | @created document made next answered vacant outcome =>
      cases made with
      | ok opened => cases skipped
      | error failure => exact outcome.of_error

/-- A session is returned for a view whose document and grammar can be had. -/
theorem resume_of_loaded {explorer : Explorer Tree Query} {state : ViewState} {host : Host}
    {document : Document} {grammar : LoadedGrammar Tree Query}
    (addressed : explorer.isAddress state.document = true)
    (answered : host state.document = .ok document)
    (loaded : (explorer.registry.get document.language).1 = .ok grammar)
    (readable : grammar.build.check = .ok ())
    : ∃ opened, (explorer.resume state host).1 = some opened := by
  rw [Explorer.resume, if_pos addressed, answered]
  cases present : explorer.find? state.document with
  | some existing => exact ⟨existing, rfl⟩
  | none =>
      simp only [create_of_loaded state loaded readable]
      exact ⟨_, rfl⟩

/-- Opening that fails and resuming that returns no session leave all but the kept grammars as it
was: the open sessions, under their numbers, and every saved state.  So a saved state that could not
be resumed is resumed later, if by then its address has been spared, and the host has its document
and the grammar can be had and read.
-/
theorem failures_changeNothing (explorer : Explorer Tree Query)
    : (∀ document failure,
        (explorer.open document).1 = .error failure
        → ∃ registry, (explorer.open document).2 = { explorer with registry })
      ∧ (∀ state host,
          (explorer.resume state host).1 = none
          → ∃ registry, (explorer.resume state host).2 = { explorer with registry })
      ∧ ∀ uri state host,
          explorer.store.Has uri state
          → (explorer.resumeSaved uri host).1 = none
          → (∃ registry, (explorer.resumeSaved uri host).2 = { explorer with registry })
            ∧ ∀ later working document grammar,
                AgreeAt uri (explorer.resumeSaved uri host).2 later
                → later.isAddress uri = true
                → working uri = .ok document
                → (later.registry.get document.language).1 = .ok grammar
                → grammar.build.check = .ok ()
                → ∃ opened,
                    (later.resumeSaved uri working).1 = some opened
                    ∧ Origin later later state document opened := by
  have skips (state : ViewState) (host : Host) (skipped : (explorer.resume state host).1 = none)
      : ∃ registry, (explorer.resume state host).2 = { explorer with registry } :=
    (explorer.resume_outcome state host).of_none skipped
  refine ⟨fun document failure failed => ?_, skips, fun uri state host has skipped => ?_⟩
  · rw [Explorer.open] at failed ⊢
    cases present : explorer.find? document.uri with
    | some existing =>
        rw [present] at failed
        cases failed
    | none =>
        simp only [present] at failed ⊢
        have outcome := explorer.create_outcome { document := document.uri } document
        rw [failed] at outcome
        exact outcome.of_error
  · rw [resumeSaved_of_has has] at skipped ⊢
    rw [skipped]
    obtain ⟨registry, same⟩ := skips state host skipped
    refine ⟨⟨registry, same⟩, fun later working document grammar agree addressed answered loaded
      readable => ?_⟩
    have still : (explorer.resume state host).2.store.Has uri state := by
      rw [same]
      exact has
    have own := has.own
    subst own
    obtain ⟨opened, resumed⟩ := resume_of_loaded addressed answered loaded readable
    rw [resumeSaved_of_has (agree.has still)]
    obtain ⟨_, again, origin⟩ := (later.resume_outcome state working).origin resumed
    cases answered.symm.trans again
    exact ⟨opened, resumed, origin⟩

/-- A state whose document the host does not have is resumed with its query once the host has it. -/
theorem failures_changeNothing_commentLines
    : let uri := queriedState.document
      let start := CommentLines.explorer queriedStore
      let failed := start.resumeSaved uri fun uri => .error (.documentNotFound uri)
      start.store.Has uri queriedState
      ∧ failed.1 = none
      ∧ failed.2.store.Has uri queriedState
      ∧ ∃ opened,
          (failed.2.resumeSaved uri commentHost).1 = some opened
          ∧ opened.session.state.queryText = CommentLines.query := by
  intro uri start failed
  have has : start.store.Has uri queriedState := queriedStore_has
  have addressed : start.isAddress queriedState.document = true := queriedState_isValid
  have skipped : failed = (none, start) := by
    have whole := resumeSaved_of_has has fun uri => .error (.documentNotFound uri)
    rw [Explorer.resume, if_pos addressed] at whole
    exact whole
  have unreturned : failed.1 = none := congrArg (·.1) skipped
  obtain ⟨_, resumes⟩ := (failures_changeNothing start).2.2 uri _ _ has unreturned
  have working := resumes failed.2 commentHost (CommentLines.document uri "//a")
    CommentLines.grammar (.refl uri _)
  rw [skipped] at working ⊢
  obtain ⟨opened, resumed, origin⟩ := working addressed rfl rfl rfl
  refine ⟨has, rfl, has, opened, resumed, ?_⟩
  rw [(origin.makes_of_vacant rfl rfl).state]
  rfl

end SyntaxExplorer.Explorer
