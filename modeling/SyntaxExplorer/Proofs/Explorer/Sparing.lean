import SyntaxExplorer.Proofs.Explorer.Filing
import SyntaxExplorer.Proofs.Store.Restoration

/-! What is done with other documents leaves the session and the saved state of one alone.  Two
documents share a file only where their digests are the same.
-/

namespace SyntaxExplorer.Explorer

open SessionStore

variable {Tree Query : Type}

/-- Two explorers agree on an address: on the session that is open under it, and on the file of its
saved state.
-/
structure AgreeAt (uri : String) (explorer next : Explorer Tree Query) : Prop where
  session : next.find? uri = explorer.find? uri
  saved : next.store.find? (fileOf uri) = explorer.store.find? (fileOf uri)

/-- An operation spares an address: it files or closes no session there and uses none, and it neither
saves nor looks for a state in the file of the address.
-/
def Spares (explorer : Explorer Tree Query) (uri : String) : Operation → Prop
  | .open document => document.uri ≠ uri
  | .resume state host => ∀ document, host state.document = .ok document → document.uri ≠ uri
  | .resumeSaved other host =>
      fileOf other ≠ fileOf uri
      ∧ ∀ document, host other = .ok document → document.uri ≠ uri
  | .close other | .visit other _ => other ≠ uri
  | .suspend other _ =>
      other ≠ uri
      ∧ ∀ opened, explorer.find? other = some opened → fileOf opened.session.uri ≠ fileOf uri

/-- Each of some operations spares an address when its turn comes. -/
def SparesAll (explorer : Explorer Tree Query) (uri : String) : List Operation → Prop
  | [] => True
  | operation :: rest =>
      explorer.Spares uri operation ∧ (explorer.perform operation).SparesAll uri rest

namespace AgreeAt

variable {explorer middle next : Explorer Tree Query} {uri : String}

/-- An explorer agrees with itself. -/
theorem refl (uri : String) (explorer : Explorer Tree Query) : AgreeAt uri explorer explorer :=
  ⟨rfl, rfl⟩

/-- Agreement goes on from step to step. -/
theorem trans (first : AgreeAt uri explorer middle) (second : AgreeAt uri middle next)
    : AgreeAt uri explorer next :=
  ⟨second.session.trans first.session, second.saved.trans first.saved⟩

/-- What stores agree on they both have. -/
theorem has {state : ViewState} (agree : AgreeAt uri explorer next)
    (has : explorer.store.Has uri state)
    : next.store.Has uri state :=
  (has_congr agree.saved).mpr has

end AgreeAt

-----------------------------------------------------------------------------------------
-- Single operations
-----------------------------------------------------------------------------------------

section Outcomes

variable {explorer next : Explorer Tree Query} {uri : String} {state : ViewState}

/-- Making a session of a document spares all other addresses. -/
theorem CreateOutcome.agreeAt {document : Document}
    {answer : Except Failure (OpenSession Tree Query)}
    (outcome : CreateOutcome explorer state document answer next) (other : document.uri ≠ uri)
    : AgreeAt uri explorer next := by
  obtain ⟨registry, sessions, count, refiled⟩ := outcome.refiles
  refine ⟨?_, by rw [refiled]⟩
  cases outcome with
  | failed => rfl
  | committed registry => exact find?_commit_of_ne _ (Ne.symm other) _

/-- Resuming a view spares all addresses but that of the document that the host answers with. -/
theorem ResumeOutcome.agreeAt {host : Host} {answer : Option (OpenSession Tree Query)}
    (outcome : ResumeOutcome explorer state host answer next)
    (others : ∀ document, host state.document = .ok document → document.uri ≠ uri)
    : AgreeAt uri explorer next := by
  cases outcome with
  | skipped | revealed => exact .refl uri explorer
  | created answered _ outcome => exact outcome.agreeAt (others _ answered)

/-- Resuming a saved state spares all addresses but that of the document that the host answers with,
if their files are others.
-/
theorem resumeSaved_agreeAt {host : Host} {other : String} (file : fileOf other ≠ fileOf uri)
    (others : ∀ document, host other = .ok document → document.uri ≠ uri)
    : AgreeAt uri explorer (explorer.resumeSaved other host).2 := by
  have looked : (explorer.store.load other).2.find? (fileOf uri)
      = explorer.store.find? (fileOf uri) :=
    find?_load_of_ne (Ne.symm file)
  rw [Explorer.resumeSaved]
  split
  · rename_i state store loaded
    have own := document_of_load (congrArg (·.1) loaded)
    have outcome := { explorer with store }.resume_outcome state host
    have start : AgreeAt uri explorer { explorer with store } := ⟨rfl, by rw [← looked, loaded]⟩
    generalize { explorer with store }.resume state host = result at outcome ⊢
    obtain ⟨_ | opened, next⟩ := result
    · exact start.trans (outcome.agreeAt (own ▸ others))
    · obtain ⟨session, saved⟩ := start.trans (outcome.agreeAt (own ▸ others))
      exact ⟨session, (find?_remove_of_ne (Ne.symm file)).trans saved⟩
  · rename_i answer store _ loaded
    exact ⟨rfl, by rw [← looked, loaded]⟩

/-- Closing a session spares all other addresses. -/
theorem close_agreeAt (explorer : Explorer Tree Query) {other : String} (different : other ≠ uri)
    : AgreeAt uri explorer (explorer.close other).2 := by
  refine ⟨find?_close_of_ne _ (Ne.symm different), ?_⟩
  rw [close]
  cases explorer.find? other <;> rfl

/-- Suspending a session spares all other addresses, if its state has another file. -/
theorem suspend_agreeAt {other : String} {mishap : Option SaveMishap} (different : other ≠ uri)
    (file
      : ∀ opened, explorer.find? other = some opened → fileOf opened.session.uri ≠ fileOf uri)
    : AgreeAt uri explorer (explorer.suspend other mishap).2 := by
  have closed := explorer.close_agreeAt different
  cases present : explorer.find? other with
  | none =>
      have vacant : explorer.close other = (none, explorer) := by rw [close, present]
      rw [suspend, vacant]
      exact .refl uri explorer
  | some opened =>
      rw [suspend_of_open present mishap]
      exact ⟨closed.session, find?_save_of_ne (Ne.symm (file opened present))⟩

/-- Using the session of a document spares all other addresses. -/
theorem withSession_agreeAt {α : Type} {other : String} (different : other ≠ uri)
    (action : Session Tree Query → α × Session Tree Query)
    : AgreeAt uri explorer (explorer.withSession other action).2 := by
  rw [withSession]
  cases explorer.find? other with
  | none => exact .refl uri explorer
  | some opened => exact ⟨lookup_replace_of_ne _ (Ne.symm different) _, rfl⟩

end Outcomes

/-- An operation that spares an address leaves it alone. -/
theorem agreeAt_perform {explorer : Explorer Tree Query} {uri : String} {operation : Operation}
    (spares : explorer.Spares uri operation)
    : AgreeAt uri explorer (explorer.perform operation) := by
  cases operation with
  | «open» document =>
      simp only [perform, Explorer.open]
      split
      · exact .refl uri explorer
      · exact (explorer.create_outcome _ document).agreeAt spares
  | resume state host => exact (explorer.resume_outcome state host).agreeAt spares
  | resumeSaved other host => exact resumeSaved_agreeAt spares.1 spares.2
  | close other => exact explorer.close_agreeAt spares
  | suspend other mishap => exact suspend_agreeAt spares.1 spares.2
  | visit other call => exact withSession_agreeAt spares _

/-- Operations that spare an address leave it alone, by induction over them. -/
theorem agreeAt_after {explorer : Explorer Tree Query} {uri : String}
    {operations : List Operation} (spares : explorer.SparesAll uri operations)
    : AgreeAt uri explorer (explorer.after operations) := by
  induction operations generalizing explorer with
  | nil => exact .refl uri explorer
  | cons operation rest ih => exact (agreeAt_perform spares.1).trans (ih spares.2)

end SyntaxExplorer.Explorer
