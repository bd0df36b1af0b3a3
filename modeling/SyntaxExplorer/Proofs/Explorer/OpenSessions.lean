import SyntaxExplorer.Explorer
import SyntaxExplorer.Proofs.Session.Runs
import SyntaxExplorer.Proofs.Store.Entries

/-! The open sessions of an explorer: what is found under an address once a session is filed, closed
or used, and what opening and resuming do to all of them.
-/

namespace SyntaxExplorer

variable {Tree Query : Type}

/-- A host that answers with the documents that it is asked for, by their own addresses. -/
def Host.IsFaithful (host : Host) : Prop :=
  ∀ uri document, host uri = .ok document → document.uri = uri

namespace Explorer

-----------------------------------------------------------------------------------------
-- Single steps
-----------------------------------------------------------------------------------------

/-- Where a session is open, filing another one changes nothing. -/
theorem commit_of_open {explorer : Explorer Tree Query} {uri : String}
    {existing : OpenSession Tree Query} (isOpen : explorer.find? uri = some existing)
    (session : Session Tree Query)
    : explorer.commit uri session = (existing, explorer) := by
  rw [commit, isOpen]

/-- Where no session is open, one is filed under the next number. -/
theorem commit_of_vacant {explorer : Explorer Tree Query} {uri : String}
    (vacant : explorer.find? uri = none) (session : Session Tree Query)
    : explorer.commit uri session
      = (⟨explorer.count, session⟩,
          { explorer with
            sessions := (uri, ⟨explorer.count, session⟩) :: explorer.sessions
            count := explorer.count + 1 }) := by
  rw [commit, vacant]

/-- Filing a session changes only which sessions are open, and how many there were. -/
theorem commit_refiles (explorer : Explorer Tree Query) (uri : String)
    (session : Session Tree Query)
    : ∃ sessions count,
        (explorer.commit uri session).2 = { explorer with sessions, count } := by
  cases present : explorer.find? uri with
  | some existing => exact ⟨_, _, congrArg (·.2) (commit_of_open present session)⟩
  | none => exact ⟨_, _, congrArg (·.2) (commit_of_vacant present session)⟩

/-- Filing a session leaves alone what grammars are kept. -/
theorem registry_commit (explorer : Explorer Tree Query) (uri : String)
    (session : Session Tree Query)
    : (explorer.commit uri session).2.registry = explorer.registry := by
  obtain ⟨sessions, count, same⟩ := explorer.commit_refiles uri session
  rw [same]

/-- What grammars are kept has no part in filing a session. -/
theorem commit_with_registry (explorer : Explorer Tree Query)
    (registry : GrammarRegistry Tree Query) (uri : String) (session : Session Tree Query)
    : { explorer with registry }.commit uri session
      = ((explorer.commit uri session).1,
          { (explorer.commit uri session).2 with registry }) := by
  cases present : explorer.find? uri with
  | some existing =>
      have isOpen : { explorer with registry }.find? uri = some existing := present
      rw [commit_of_open present, commit_of_open isOpen]
  | none =>
      have vacant : { explorer with registry }.find? uri = none := present
      rw [commit_of_vacant present, commit_of_vacant vacant]

/-- The session that counts is found where it was filed. -/
theorem find?_commit_self (explorer : Explorer Tree Query) (uri : String)
    (session : Session Tree Query)
    : (explorer.commit uri session).2.find? uri = some (explorer.commit uri session).1 := by
  cases present : explorer.find? uri with
  | some existing => rw [commit_of_open present, present]
  | none =>
      rw [commit_of_vacant present]
      exact List.lookup_cons_self

/-- Filing a session leaves all other addresses alone. -/
theorem find?_commit_of_ne (explorer : Explorer Tree Query) {uri other : String}
    (different : other ≠ uri) (session : Session Tree Query)
    : (explorer.commit uri session).2.find? other = explorer.find? other := by
  cases present : explorer.find? uri with
  | some existing => rw [commit_of_open present]
  | none =>
      rw [commit_of_vacant present]
      have skipped : (other == uri) = false := beq_eq_false_iff_ne.mpr different
      simp only [find?, List.lookup_cons, skipped]

/-- An open session stays where it is when others are filed. -/
theorem find?_commit_of_open {explorer : Explorer Tree Query} {uri other : String}
    {existing : OpenSession Tree Query} (isOpen : explorer.find? other = some existing)
    (session : Session Tree Query)
    : (explorer.commit uri session).2.find? other = some existing := by
  by_cases same : other = uri
  · subst same
    rw [commit_of_open isOpen, isOpen]
  · rw [explorer.find?_commit_of_ne same, isOpen]

/-- Closing takes out what is filed under an address. -/
theorem sessions_close (explorer : Explorer Tree Query) (uri : String)
    : (explorer.close uri).2.sessions = explorer.sessions.filter (·.1 != uri) := by
  rw [close]
  cases present : explorer.find? uri with
  | some opened => rfl
  | none =>
      refine (List.filter_eq_self.mpr fun entry member => ?_).symm
      have other := List.lookup_eq_none_iff.mp present entry member
      rw [bne_iff_ne] at other ⊢
      exact other.symm

/-- Nothing is open under an address once it was closed. -/
theorem find?_close_self (explorer : Explorer Tree Query) (uri : String)
    : (explorer.close uri).2.find? uri = none := by
  rw [find?, sessions_close]
  exact lookup_filter_self explorer.sessions uri

/-- Closing leaves all other addresses alone. -/
theorem find?_close_of_ne (explorer : Explorer Tree Query) {uri other : String}
    (different : other ≠ uri)
    : (explorer.close uri).2.find? other = explorer.find? other := by
  rw [find?, sessions_close]
  exact lookup_filter_of_ne explorer.sessions different

/-- Closing an open session hands out its state. -/
theorem close_of_open {explorer : Explorer Tree Query} {uri : String}
    {opened : OpenSession Tree Query} (isOpen : explorer.find? uri = some opened)
    : explorer.close uri
      = (some opened.session.state,
          { explorer with sessions := explorer.sessions.filter (·.1 != uri) }) := by
  rw [close, isOpen]

-----------------------------------------------------------------------------------------
-- Opening and resuming
-----------------------------------------------------------------------------------------

/-- What comes of making a session for a document: without a grammar or a tree there is none, and
the open sessions are as they were; else it is filed under the address of the document.
-/
inductive CreateOutcome (explorer : Explorer Tree Query) (state : ViewState) (document : Document)
    : Except Failure (OpenSession Tree Query) → Explorer Tree Query → Prop
  | failed (failure : Failure) (registry : GrammarRegistry Tree Query)
    : CreateOutcome explorer state document (.error failure) { explorer with registry }
  | committed {grammar session} (registry : GrammarRegistry Tree Query)
    (loaded : (explorer.registry.get document.language).1 = .ok grammar)
    (resumed : Session.resume state document.text grammar explorer.matchLimit = .ok session)
    : CreateOutcome explorer state document
        (.ok ({ explorer with registry }.commit document.uri session).1)
        ({ explorer with registry }.commit document.uri session).2

/-- Making a session has one of these outcomes. -/
theorem create_outcome (explorer : Explorer Tree Query) (state : ViewState) (document : Document)
    : CreateOutcome explorer state document (explorer.create state document).1
        (explorer.create state document).2 := by
  rw [create]
  rcases loaded : explorer.registry.get document.language with ⟨_ | grammar, registry⟩
  · exact .failed _ registry
  · simp only
    cases resumed : Session.resume state document.text grammar explorer.matchLimit with
    | error failure => exact .failed failure registry
    | ok session => exact .committed registry (by rw [loaded]) resumed

/-- With a grammar that can be had and read, a session is made and filed. -/
theorem create_of_loaded {explorer : Explorer Tree Query} (state : ViewState)
    {document : Document} {grammar : LoadedGrammar Tree Query}
    (loaded : (explorer.registry.get document.language).1 = .ok grammar)
    (readable : grammar.build.check = .ok ())
    : let session := (Session.unshown state document.text grammar explorer.matchLimit).refresh.2
      explorer.create state document
        = (.ok (explorer.commit document.uri session).1,
            { (explorer.commit document.uri session).2 with
              registry := (explorer.registry.get document.language).2 }) := by
  have resumed := Session.resume_eq_ok_iff.mpr
    ⟨readable, Eq.refl (Session.unshown state document.text grammar explorer.matchLimit).refresh.2⟩
  rw [create]
  generalize explorer.registry.get document.language = result at loaded ⊢
  obtain ⟨answer, registry⟩ := result
  subst loaded
  simp only [resumed, commit_with_registry]

/-- What comes of resuming the view of a document: it is skipped if the host does not hand out the
document, an open session counts, and else a session is made.
-/
inductive ResumeOutcome (explorer : Explorer Tree Query) (state : ViewState) (host : Host)
    : Option (OpenSession Tree Query) → Explorer Tree Query → Prop
  | skipped : ResumeOutcome explorer state host none explorer
  | revealed {document existing} (answered : host state.document = .ok document)
    (isOpen : explorer.find? state.document = some existing)
    : ResumeOutcome explorer state host (some existing) explorer
  | created {document answer next} (answered : host state.document = .ok document)
    (vacant : explorer.find? state.document = none)
    (outcome : CreateOutcome explorer state document answer next)
    : ResumeOutcome explorer state host answer.toOption next

/-- Resuming has one of these outcomes. -/
theorem resume_outcome (explorer : Explorer Tree Query) (state : ViewState) (host : Host)
    : ResumeOutcome explorer state host (explorer.resume state host).1
        (explorer.resume state host).2 := by
  rw [Explorer.resume]
  split
  · cases answered : host state.document with
    | error fault => exact .skipped
    | ok document =>
        cases present : explorer.find? state.document with
        | some existing => exact .revealed answered present
        | none => exact .created answered present (explorer.create_outcome state document)
  · exact .skipped

/-- What comes of resuming the view of a document as its saved state has it: nothing if no state can
be loaded, nothing if its view is skipped, and else the saved state is removed.
-/
inductive SavedOutcome (explorer : Explorer Tree Query) (uri : String) (host : Host)
    : Option (OpenSession Tree Query) → Explorer Tree Query → Prop
  | unsaved (store : SessionStore) : SavedOutcome explorer uri host none { explorer with store }
  | skipped {state store next} (loaded : explorer.store.load uri = (.ok (some state), store))
    (outcome : ResumeOutcome { explorer with store } state host none next)
    : SavedOutcome explorer uri host none next
  | resumed {state store opened next} (loaded : explorer.store.load uri = (.ok (some state), store))
    (outcome : ResumeOutcome { explorer with store } state host (some opened) next)
    : SavedOutcome explorer uri host (some opened)
        { next with store := (SessionStore.remove next.store uri).2 }

/-- Resuming a saved state has one of these outcomes. -/
theorem resumeSaved_outcome (explorer : Explorer Tree Query) (uri : String) (host : Host)
    : SavedOutcome explorer uri host (explorer.resumeSaved uri host).1
        (explorer.resumeSaved uri host).2 := by
  rw [Explorer.resumeSaved]
  split
  · rename_i state store loaded
    have outcome := { explorer with store }.resume_outcome state host
    generalize { explorer with store }.resume state host = result at outcome ⊢
    obtain ⟨_ | opened, next⟩ := result
    · exact .skipped loaded outcome
    · exact .resumed loaded outcome
  · rename_i store _ _
    exact .unsaved store

-----------------------------------------------------------------------------------------
-- What that does to the open sessions
-----------------------------------------------------------------------------------------

/-- Making a session leaves the open sessions alone or files one of the document of the state, where
none was open.
-/
theorem CreateOutcome.sessions {explorer next : Explorer Tree Query} {state : ViewState}
    {document : Document} {answer : Except Failure (OpenSession Tree Query)}
    (outcome : CreateOutcome explorer state document answer next)
    : next.sessions = explorer.sessions
      ∨ ∃ opened,
          explorer.find? document.uri = none
          ∧ opened.session.uri = state.document
          ∧ next.sessions = (document.uri, opened) :: explorer.sessions := by
  cases outcome with
  | failed failure registry => exact .inl rfl
  | @committed grammar session registry loaded resumed =>
      rw [commit_with_registry]
      cases present : explorer.find? document.uri with
      | some existing =>
          rw [commit_of_open present]
          exact .inl rfl
      | none =>
          rw [commit_of_vacant present]
          exact .inr ⟨_, rfl, Session.uri_of_resume resumed, rfl⟩

/-- Resuming files at most a session of the document of its state, under the address that the host
answers with.
-/
theorem ResumeOutcome.sessions {explorer next : Explorer Tree Query} {state : ViewState}
    {host : Host} {answer : Option (OpenSession Tree Query)}
    (outcome : ResumeOutcome explorer state host answer next)
    : next.sessions = explorer.sessions
      ∨ ∃ document opened,
          host state.document = .ok document
          ∧ explorer.find? document.uri = none
          ∧ opened.session.uri = state.document
          ∧ next.sessions = (document.uri, opened) :: explorer.sessions := by
  cases outcome with
  | skipped | revealed => exact .inl rfl
  | created answered _ outcome =>
      exact outcome.sessions.imp id fun ⟨opened, vacant, own, filed⟩ =>
        ⟨_, opened, answered, vacant, own, filed⟩

/-- Making a session changes only which grammars are kept and which sessions are open. -/
theorem CreateOutcome.refiles {explorer next : Explorer Tree Query} {state : ViewState}
    {document : Document} {answer : Except Failure (OpenSession Tree Query)}
    (outcome : CreateOutcome explorer state document answer next)
    : ∃ registry sessions count, next = { explorer with registry, sessions, count } := by
  cases outcome with
  | failed failure registry => exact ⟨registry, explorer.sessions, explorer.count, rfl⟩
  | committed registry => exact ⟨registry, commit_refiles _ _ _⟩

/-- So does resuming a view. -/
theorem ResumeOutcome.refiles {explorer next : Explorer Tree Query} {state : ViewState}
    {host : Host} {answer : Option (OpenSession Tree Query)}
    (outcome : ResumeOutcome explorer state host answer next)
    : ∃ registry sessions count, next = { explorer with registry, sessions, count } := by
  cases outcome with
  | skipped | revealed =>
      exact ⟨explorer.registry, explorer.sessions, explorer.count, rfl⟩
  | created _ _ outcome => exact outcome.refiles

/-- A session that was resumed is found under the address of its state exactly if one was open there
or if the host answered with a document of that address.
-/
theorem find?_resume_iff {explorer : Explorer Tree Query} {state : ViewState} {host : Host}
    {opened : OpenSession Tree Query} (resumed : (explorer.resume state host).1 = some opened)
    : (explorer.resume state host).2.find? state.document = some opened
      ↔ (∃ existing, explorer.find? state.document = some existing)
        ∨ ∃ document, host state.document = .ok document ∧ document.uri = state.document := by
  have outcome := explorer.resume_outcome state host
  generalize explorer.resume state host = result at outcome resumed ⊢
  obtain ⟨answer, next⟩ := result
  cases outcome with
  | skipped => cases resumed
  | revealed _ isOpen =>
      cases resumed
      exact ⟨fun _ => .inl ⟨opened, isOpen⟩, fun _ => isOpen⟩
  | @created document _ _ answered vacant outcome =>
      cases outcome with
      | failed => cases resumed
      | @committed grammar session registry _ _ =>
          cases resumed
          by_cases own : document.uri = state.document
          · refine ⟨fun _ => .inr ⟨document, answered, own⟩, fun _ => ?_⟩
            rw [← own]
            exact find?_commit_self _ _ _
          · -- The address of the state is as vacant as before.
            have still : ({ explorer with registry }.commit document.uri session).2.find?
                state.document = none :=
              (find?_commit_of_ne _ (Ne.symm own) session).trans vacant
            constructor
            · intro found
              cases still.symm.trans found
            · rintro (⟨existing, isOpen⟩ | ⟨other, again, named⟩)
              · cases vacant.symm.trans isOpen
              · cases answered.symm.trans again
                exact (own named).elim

end Explorer

end SyntaxExplorer
