import SyntaxExplorer.Proofs.Explorer.Convergence
import SyntaxExplorer.Proofs.Explorer.Suspension
import SyntaxExplorer.Proofs.Store.Restoration

/-! What becomes of a saved state that is resumed.  It is removed with whatever session is returned:
with one that was made from it, but also with one that was open already and has nothing of it.
-/

namespace SyntaxExplorer.Explorer

open SessionStore

variable {Tree Query : Type}

-----------------------------------------------------------------------------------------
-- A call that none interrupts
-----------------------------------------------------------------------------------------

/-- The explorer once the view of a saved state was resumed: the state is removed with any session
that is returned.
-/
def discard (explorer : Explorer Tree Query) (uri : String)
    : Option (OpenSession Tree Query) → Explorer Tree Query
  | some _ => { explorer with store := (SessionStore.remove explorer.store uri).2 }
  | none => explorer

/-- A state that the store has is resumed like any other, and then removed. -/
theorem resumeSaved_of_has {explorer : Explorer Tree Query} {uri : String} {state : ViewState}
    (has : explorer.store.Has uri state) (host : Host)
    : explorer.resumeSaved uri host
      = ((explorer.resume state host).1,
          (explorer.resume state host).2.discard uri (explorer.resume state host).1) := by
  rw [Explorer.resumeSaved, has.load]
  simp only
  generalize explorer.resume state host = result
  obtain ⟨_ | opened, next⟩ := result <;> rfl

/-- Where the session comes from that is returned for a saved state.  It was open under the address
of the state when the call looked there, or under that of the host's document when the call came to
file its own; else it is the one that was made from the state.
-/
inductive Origin (checked filing : Explorer Tree Query) (state : ViewState) (document : Document)
    (opened : OpenSession Tree Query)
    : Prop
  | revealed (isOpen : checked.find? state.document = some opened)
  | overtaken (vacant : checked.find? state.document = none)
    (isOpen : filing.find? document.uri = some opened)
  | restored (vacant : checked.find? state.document = none)
    (free : filing.find? document.uri = none)
    (makes : (Request.resuming state).Makes document opened.session)

/-- A session that is filed, or found where another was to be filed, has one of these origins. -/
theorem Origin.of_commit {checked filing : Explorer Tree Query} {state : ViewState}
    {document : Document} {session : Session Tree Query}
    (vacant : checked.find? state.document = none)
    (makes : (Request.resuming state).Makes document session)
    : Origin checked filing state document (filing.commit document.uri session).1 := by
  cases present : filing.find? document.uri with
  | some existing =>
      rw [commit_of_open present]
      exact .overtaken vacant present
  | none =>
      rw [commit_of_vacant present]
      exact .restored vacant present makes

/-- Where no sessions were open, the one that is returned was made from the state. -/
theorem Origin.makes_of_vacant {checked filing : Explorer Tree Query} {state : ViewState}
    {document : Document} {opened : OpenSession Tree Query}
    (origin : Origin checked filing state document opened) (before : checked.sessions = [])
    (after : filing.sessions = [])
    : (Request.resuming state).Makes document opened.session := by
  cases origin with
  | revealed isOpen =>
      rw [find?, before] at isOpen
      cases isOpen
  | overtaken _ isOpen =>
      rw [find?, after] at isOpen
      cases isOpen
  | restored _ _ makes => exact makes

/-- A session that is returned for a view has one of these origins. -/
theorem ResumeOutcome.origin {explorer next : Explorer Tree Query} {state : ViewState}
    {host : Host} {answer : Option (OpenSession Tree Query)} {opened : OpenSession Tree Query}
    (outcome : ResumeOutcome explorer state host answer next) (returned : answer = some opened)
    : ∃ document,
        host state.document = .ok document
        ∧ Origin explorer explorer state document opened := by
  cases outcome with
  | skipped => cases returned
  | revealed answered isOpen =>
      cases returned
      exact ⟨_, answered, .revealed isOpen⟩
  | created answered vacant outcome =>
      cases outcome with
      | failed => cases returned
      | committed registry loaded resumed =>
          cases returned
          refine ⟨_, answered, ?_⟩
          rw [commit_with_registry]
          exact .of_commit vacant (Request.makes_of_resume resumed)

/-- A saved state is removed exactly if a session is returned, whatever session it is.  This presumes
that a file that is there can be removed; if it cannot be, the session is returned all the same.
-/
theorem resumeSaved_removes_iff {explorer : Explorer Tree Query} {uri : String}
    {state : ViewState} (has : explorer.store.Has uri state) (host : Host)
    : (explorer.resumeSaved uri host).2.store.find? (fileOf uri) = none
      ↔ ∃ opened, (explorer.resumeSaved uri host).1 = some opened := by
  have store : (explorer.resume state host).2.store = explorer.store := by
    obtain ⟨registry, sessions, count, refiled⟩ := (explorer.resume_outcome state host).refiles
    rw [refiled]
  rw [resumeSaved_of_has has]
  cases answer : (explorer.resume state host).1 with
  | none =>
      obtain ⟨⟨bytes, found, _⟩, _⟩ := has
      rw [discard, store, found]
      simp
  | some opened =>
      rw [discard, store]
      exact ⟨fun _ => ⟨opened, rfl⟩, fun _ => has.remove⟩

-----------------------------------------------------------------------------------------
-- The steps of a call
-----------------------------------------------------------------------------------------

/-- The steps of a call leave alone what is saved. -/
theorem Progress.store {explorer next : Explorer Tree Query} {request : Request}
    {surroundings : Surroundings Tree Query} {stage reached : Stage Tree Query}
    (progress : Progress explorer request surroundings stage reached next)
    : next.store = explorer.store := by
  cases progress with
  | committed document session =>
      obtain ⟨sessions, count, refiled⟩ := explorer.commit_refiles document.uri session
      rw [refiled]
  | answered | found | missed | loaded | built | failed | rested => rfl

/-- How far resuming a saved state has come: its file is read, then its view is resumed, and then it
is removed.
-/
inductive SavedStage (Tree Query : Type)
  | reading
  | resuming (state : ViewState) (stage : Stage Tree Query)
  | returned (answer : Option (OpenSession Tree Query))

/-- One step of resuming a saved state.  Those of its view are the steps of a call. -/
def advanceSaved (explorer : Explorer Tree Query) (uri : String)
    (surroundings : Surroundings Tree Query)
    : SavedStage Tree Query → SavedStage Tree Query × Explorer Tree Query
  | .reading =>
      match explorer.store.load uri with
      | (.ok (some state), store) =>
          (.resuming state (Request.resuming state).stage, { explorer with store })
      | (_, store) => (.returned none, { explorer with store })
  | .resuming _ (.returned answer) => (.returned answer, explorer.discard uri answer)
  | .resuming state stage =>
      let reached := advance explorer (.resuming state) surroundings stage
      (.resuming state reached.1, reached.2)
  | .returned answer => (.returned answer, explorer)

/-- One step, from where the call and the explorer are. -/
def savedStep (uri : String) (surroundings : Surroundings Tree Query)
    (reached : SavedStage Tree Query × Explorer Tree Query)
    : SavedStage Tree Query × Explorer Tree Query :=
  advanceSaved reached.2 uri surroundings reached.1

/-- A state is removed in the step after those in which its view is resumed, by induction over
these.
-/
theorem savedStep_resuming {uri : String} {surroundings : Surroundings Tree Query}
    {state : ViewState} {stage : Stage Tree Query} {explorer next : Explorer Tree Query}
    {answer : Option (OpenSession Tree Query)} {count : Nat}
    (resumed : ((Request.resuming state).step surroundings)^[count] (stage, explorer)
      = (.returned answer, next))
    : (savedStep uri surroundings)^[count + 1] (.resuming state stage, explorer)
      = (.returned answer, next.discard uri answer) := by
  induction count generalizing stage explorer with
  | zero =>
      cases resumed
      rfl
  | succ count ih =>
      rw [Function.iterate_succ_apply]
      cases stage with
      | returned early =>
          rw [Request.step_returned] at resumed
          cases resumed
          exact Function.iterate_fixed rfl _
      | asking | checking | loading | building | committing =>
          rw [Function.iterate_succ_apply] at resumed
          exact ih resumed

/-- Resuming a saved state is a call that none interrupts, but for the grammars that are kept. -/
theorem savedStep_alone {explorer : Explorer Tree Query} {surroundings : Surroundings Tree Query}
    (loads : ∀ language, surroundings.grammars language = (explorer.registry.get language).1)
    (uri : String)
    : (savedStep uri surroundings)^[7] (.reading, explorer)
      = (.returned (explorer.resumeSaved uri surroundings.host).1,
          { (explorer.resumeSaved uri surroundings.host).2 with
            registry := explorer.registry }) := by
  rw [Function.iterate_succ_apply]
  rcases loaded : explorer.store.load uri with ⟨_ | _ | state, store⟩
  · simp only [savedStep, advanceSaved, Explorer.resumeSaved, loaded]
    exact Function.iterate_fixed rfl _
  · simp only [savedStep, advanceSaved, Explorer.resumeSaved, loaded]
    exact Function.iterate_fixed rfl _
  · obtain ⟨has, rfl⟩ := has_of_load loaded
    have read : savedStep uri surroundings (.reading, explorer)
        = (.resuming state (Request.resuming state).stage, explorer) := by
      simp only [savedStep, advanceSaved, loaded]
    rw [read, resumeSaved_of_has has, savedStep_resuming (alone_resuming loads state)]
    cases (explorer.resume state surroundings.host).1 <;> rfl

-----------------------------------------------------------------------------------------
-- A call among others
-----------------------------------------------------------------------------------------

/-- Resuming a saved state while anything else goes on.  Between its steps others may turn the
explorer into any other one, so it is given as the call finds it at each step.
-/
structure Passage (Tree Query : Type) where
  uri : String
  explorer : Nat → Explorer Tree Query
  surroundings : Nat → Surroundings Tree Query

/-- Something held in a step before a time. -/
def Before (time : Nat) (Held : Nat → Prop) : Prop := ∃ earlier < time, Held earlier

/-- What held before a time held before the next. -/
theorem Before.succ {time : Nat} {Held : Nat → Prop} (before : Before time Held)
    : Before (time + 1) Held :=
  before.imp fun _ ⟨earlier, held⟩ => ⟨Nat.lt_succ_of_lt earlier, held⟩

/-- What holds at a time held before the next. -/
theorem Before.of_now {time : Nat} {Held : Nat → Prop} (held : Held time)
    : Before (time + 1) Held :=
  ⟨time, Nat.lt_succ_self time, held⟩

namespace Passage

/-- How far the call has come at a time. -/
def stage (passage : Passage Tree Query) : Nat → SavedStage Tree Query
  | 0 => .reading
  | time + 1 =>
      (advanceSaved (passage.explorer time) passage.uri (passage.surroundings time)
        (passage.stage time)).1

/-- The explorer as the step at a time leaves it. -/
def left (passage : Passage Tree Query) (time : Nat) : Explorer Tree Query :=
  (advanceSaved (passage.explorer time) passage.uri (passage.surroundings time)
    (passage.stage time)).2

/-- Before a time the host had answered with a document. -/
def Answers (passage : Passage Tree Query) (time : Nat) (document : Document) : Prop :=
  Before time fun asked => (passage.surroundings asked).host passage.uri = .ok document

/-- Before a time no session was open under the address. -/
def Missed (passage : Passage Tree Query) (time : Nat) : Prop :=
  Before time fun checked => (passage.explorer checked).find? passage.uri = none

/-- A session that is returned has its origin in two steps before a time. -/
def Explains (passage : Passage Tree Query) (state : ViewState) (time : Nat)
    (opened : OpenSession Tree Query) : Prop :=
  ∃ document,
    passage.Answers time document
    ∧ Before time fun checked =>
        Before time fun filing =>
          Origin (passage.explorer checked) (passage.explorer filing) state document opened

/-- What the call has of a state at a stage: a document that the host answered with, an address at
which it missed a session, a session that it made of the state, or one whose origin is explained.
-/
def Backs (passage : Passage Tree Query) (state : ViewState) (time : Nat)
    : SavedStage Tree Query → Prop
  | .reading => time = 0
  | .resuming saved .asking => saved = state
  | .resuming saved (.checking document) => saved = state ∧ passage.Answers time document
  | .resuming saved (.loading document) | .resuming saved (.building document _) =>
      saved = state ∧ passage.Answers time document ∧ passage.Missed time
  | .resuming saved (.committing document session) =>
      saved = state
      ∧ passage.Answers time document
      ∧ passage.Missed time
      ∧ (Request.resuming state).Makes document session
  | .resuming saved (.returned (some opened)) =>
      saved = state ∧ passage.Explains state time opened
  | .resuming _ (.returned none) | .returned _ => True

variable {passage : Passage Tree Query} {state : ViewState} {time : Nat}

/-- A step of a call that reads a state keeps what the call has of it. -/
theorem Backs.succ (has : (passage.explorer 0).store.Has passage.uri state)
    (backed : passage.Backs state time (passage.stage time))
    : passage.Backs state (time + 1) (passage.stage (time + 1)) := by
  have own := has.own
  rw [stage]
  generalize passage.stage time = reached at backed
  cases reached with
  | returned answer => trivial
  | reading =>
      cases backed
      simp only [advanceSaved, has.load]
      rfl
  | resuming saved stage =>
      cases stage with
      | returned answer => trivial
      | asking =>
          obtain rfl : saved = state := backed
          simp only [advanceSaved, advance]
          split
          · cases answered : (passage.surroundings time).host (Request.resuming saved).uri with
            | error fault => trivial
            | ok document => exact ⟨rfl, .of_now (own ▸ answered)⟩
          · trivial
      | checking document =>
          obtain ⟨rfl, answers⟩ := backed
          simp only [advanceSaved, advance, Request.uri]
          cases present : (passage.explorer time).find? saved.document with
          | some existing =>
              exact ⟨rfl, document, answers.succ, .of_now (.of_now (.revealed present))⟩
          | none => exact ⟨rfl, answers.succ, .of_now (own ▸ present)⟩
      | loading document =>
          obtain ⟨rfl, answers, missed⟩ := backed
          simp only [advanceSaved, advance]
          cases (passage.surroundings time).grammars document.language with
          | error failure => trivial
          | ok grammar => exact ⟨rfl, answers.succ, missed.succ⟩
      | building document grammar =>
          obtain ⟨rfl, answers, missed⟩ := backed
          simp only [advanceSaved, advance]
          cases resumed : Session.resume (Request.resuming saved).state document.text grammar
              (passage.explorer time).matchLimit with
          | error failure => trivial
          | ok session =>
              exact ⟨rfl, answers.succ, missed.succ, Request.makes_of_resume resumed⟩
      | committing document session =>
          obtain ⟨rfl, answers, ⟨checked, before, vacant⟩, makes⟩ := backed
          refine ⟨rfl, document, answers.succ, checked, Nat.lt_succ_of_lt before, .of_now ?_⟩
          exact .of_commit (own ▸ vacant) makes

/-- The call has at each time what its stage says, by induction over time. -/
theorem backs (has : (passage.explorer 0).store.Has passage.uri state) (time : Nat)
    : passage.Backs state time (passage.stage time) := by
  induction time with
  | zero => rfl
  | succ time ih => exact ih.succ has

/-- Each step but the one after a session was returned leaves the file of the state alone. -/
theorem find?_left (has : (passage.explorer 0).store.Has passage.uri state)
    (unfinished : ∀ saved opened, passage.stage time ≠ .resuming saved (.returned (some opened)))
    : (passage.left time).store.find? (fileOf passage.uri)
      = (passage.explorer time).store.find? (fileOf passage.uri) := by
  have backed := backs has time
  rw [left]
  generalize passage.stage time = reached at backed unfinished ⊢
  cases reached with
  | returned answer => rfl
  | reading =>
      cases backed
      simp only [advanceSaved, has.load]
  | resuming saved stage =>
      have progress := advance_progress (passage.explorer time) (.resuming saved)
        (passage.surroundings time) stage
      cases stage with
      | returned answer =>
          cases answer with
          | none => rfl
          | some opened => exact (unfinished saved opened rfl).elim
      | asking | checking | loading | building | committing =>
          exact congrArg (Folder.find? · _) progress.store

end Passage

-----------------------------------------------------------------------------------------
-- What a state is discarded for
-----------------------------------------------------------------------------------------

/-- A saved state is removed, if its file can be, exactly if a session is returned for it.  That session
was made from the state only if none was open, neither under the address of the state nor under that
of the host's document; else it is the open one, and nothing is left of the state.  The same holds
whatever goes on between the steps of the call: it touches the file of the state only once it has
returned a session, which has such an origin in steps before.
-/
theorem resumeSaved_discards {explorer : Explorer Tree Query} {uri : String} {state : ViewState}
    (has : explorer.store.Has uri state)
    : (∀ host,
        let answer := (explorer.resumeSaved uri host).1
        let next := (explorer.resumeSaved uri host).2
        (next.store.find? (fileOf uri) = none ↔ ∃ opened, answer = some opened)
        ∧ ∀ opened,
            answer = some opened
            → ∃ document,
                host uri = .ok document
                ∧ Origin explorer explorer state document opened)
      ∧ ∀ passage : Passage Tree Query,
          passage.uri = uri
          → passage.explorer 0 = explorer
          → ∀ time,
              (passage.left time).store.find? (fileOf uri)
                ≠ (passage.explorer time).store.find? (fileOf uri)
              → ∃ opened,
                  passage.stage time = .resuming state (.returned (some opened))
                  ∧ passage.Explains state time opened := by
  refine ⟨fun host => ⟨resumeSaved_removes_iff has host, fun opened returned => ?_⟩, ?_⟩
  · rw [resumeSaved_of_has has] at returned
    obtain ⟨document, answered, origin⟩ := (explorer.resume_outcome state host).origin returned
    exact ⟨document, has.own ▸ answered, origin⟩
  · rintro passage rfl rfl time touched
    by_cases finished : ∃ saved opened,
        passage.stage time = .resuming saved (.returned (some opened))
    · obtain ⟨saved, opened, returned⟩ := finished
      have backed := passage.backs has time
      rw [returned] at backed
      obtain ⟨rfl, explained⟩ := backed
      exact ⟨opened, returned, explained⟩
    · refine (touched (Passage.find?_left has fun saved opened returned => ?_)).elim
      exact finished ⟨saved, opened, returned⟩

/-- A state with a query. -/
def queriedState : ViewState := { document := "file:///a.js", queryText := CommentLines.query }

/-- A store in which that state was saved. -/
def queriedStore : SessionStore := (SessionStore.save .missing queriedState).2

/-- The store has the state. -/
theorem queriedStore_has : queriedStore.Has queriedState.document queriedState := by
  have fits : ViewState.format.Fits queriedState := by decide +kernel
  have accepts : ¬ Refuses .missing queriedState.document := by simp [Refuses, Folder.find?]
  exact has_of_save fits (congrArg (·.1) (save_of_not_refuses accepts))

/-- The state has the address of a document. -/
theorem queriedState_isValid : Uri.isValid queriedState.document = true := by decide +kernel

/-- A host that has a comment in each document. -/
def commentHost : Host := fun uri => .ok (CommentLines.document uri "//a")

/-- Where no session is open, the one that is returned has the query of the state. -/
theorem resumeSaved_discards_commentLines
    : let uri := queriedState.document
      let start := CommentLines.explorer queriedStore
      let resumed := start.resumeSaved uri commentHost
      start.store.Has uri queriedState
      ∧ ∃ opened,
          resumed.1 = some opened
          ∧ opened.session.state.queryText = CommentLines.query
          ∧ resumed.2.store.find? (fileOf uri) = none := by
  intro uri start resumed
  have has : start.store.Has uri queriedState := queriedStore_has
  obtain ⟨removed, origins⟩ := (resumeSaved_discards has).1 commentHost
  have made : ∃ opened, (start.resume queriedState commentHost).1 = some opened := by
    have addressed : start.isAddress queriedState.document = true := queriedState_isValid
    rw [Explorer.resume, if_pos addressed]
    exact ⟨_, rfl⟩
  obtain ⟨opened, made⟩ := made
  have returned : resumed.1 = some opened :=
    (congrArg (·.1) (resumeSaved_of_has has commentHost)).trans made
  refine ⟨has, opened, returned, ?_, removed.mpr ⟨opened, returned⟩⟩
  obtain ⟨document, answered, origin⟩ := origins opened returned
  rw [(origin.makes_of_vacant rfl rfl).state]
  rfl

/-- A state is discarded for a session that was open without a query: its query is in no session and
in no file any more.
-/
theorem resumeSaved_forgets_query
    : let uri := queriedState.document
      let start := ((CommentLines.explorer queriedStore).open (CommentLines.document uri "//a")).2
      let resumed := start.resumeSaved uri commentHost
      start.store.Has uri queriedState
      ∧ (∃ opened, resumed.1 = some opened ∧ opened.session.state.queryText = "")
      ∧ resumed.2.store.find? (fileOf uri) = none
      ∧ ¬ resumed.2.KeepsView uri queriedState := by
  intro uri start resumed
  have has : start.store.Has uri queriedState := queriedStore_has
  have isOpen : start.find? uri = some ⟨0, CommentLines.session⟩ := rfl
  have revealed : start.resume queriedState commentHost
      = (some ⟨0, CommentLines.session⟩, start) := by
    have addressed : start.isAddress queriedState.document = true := queriedState_isValid
    rw [Explorer.resume, if_pos addressed]
    rfl
  have answer : resumed = (some ⟨0, CommentLines.session⟩,
      start.discard uri (some ⟨0, CommentLines.session⟩)) := by
    have whole := resumeSaved_of_has has commentHost
    rw [revealed] at whole
    exact whole
  rw [answer]
  have removed : (start.discard uri (some ⟨0, CommentLines.session⟩)).store.find? (fileOf uri)
      = none :=
    has.remove
  refine ⟨has, ⟨_, rfl, rfl⟩, removed, ?_⟩
  rintro (⟨opened, found, same⟩ | ⟨saved, loaded, _⟩)
  · cases isOpen.symm.trans found
    exact absurd same.queryText (by decide)
  · simp [load, Folder.contains, removed] at loaded

end SyntaxExplorer.Explorer
