import Mathlib.Data.Nat.Init
import Mathlib.Logic.Function.Basic
import Mathlib.Order.Monotone.Basic
import SyntaxExplorer.Proofs.Explorer.CommentDocuments
import SyntaxExplorer.Proofs.Explorer.Interleaving

/-! Calls that run at one time agree on the session of a document, in whatever order their steps come
and whatever is closed in between.  Numbers tell sessions apart, and the count of an explorer grows
with each that is filed: so one call alone has filed the session that others return.
-/

namespace SyntaxExplorer.Explorer

variable {Tree Query : Type}

-----------------------------------------------------------------------------------------
-- Schedules
-----------------------------------------------------------------------------------------

/-- What happens next: a call takes a step, or the session of a document is closed. -/
inductive Move (Tree Query : Type)
  | proceed (call : Nat) (surroundings : Surroundings Tree Query)
  | close (uri : String)

/-- The calls under way at an explorer, by their numbers. -/
structure Traffic (Tree Query : Type) where
  explorer : Explorer Tree Query
  stages : Nat → Stage Tree Query

/-- What a move leads to. -/
def Traffic.step (traffic : Traffic Tree Query) (requests : Nat → Request)
    : Move Tree Query → Traffic Tree Query
  | .proceed call surroundings =>
      let reached := advance traffic.explorer (requests call) surroundings (traffic.stages call)
      { explorer := reached.2, stages := Function.update traffic.stages call reached.1 }
  | .close uri => { traffic with explorer := (traffic.explorer.close uri).2 }

/-- Any number of calls of an explorer in which nothing is open yet, and the order in which their
steps come and sessions are closed.  The hosts are faithful.
-/
structure Schedule (Tree Query : Type) where
  explorer : Explorer Tree Query
  vacant : explorer.sessions = []
  requests : Nat → Request
  moves : Nat → Move Tree Query
  faithful
    : ∀ time call surroundings,
        moves time = .proceed call surroundings → surroundings.host.IsFaithful

namespace Schedule

/-- How far the calls have come at a time. -/
def traffic (schedule : Schedule Tree Query) : Nat → Traffic Tree Query
  | 0 => ⟨schedule.explorer, fun call => (schedule.requests call).stage⟩
  | time + 1 => (schedule.traffic time).step schedule.requests (schedule.moves time)

/-- The open session of a document at a time. -/
def find? (schedule : Schedule Tree Query) (time : Nat) (uri : String)
    : Option (OpenSession Tree Query) :=
  (schedule.traffic time).explorer.find? uri

/-- How far a call has come at a time. -/
def stage (schedule : Schedule Tree Query) (time call : Nat) : Stage Tree Query :=
  (schedule.traffic time).stages call

/-- At a time a call takes the step with which it returns. -/
structure Returns (schedule : Schedule Tree Query) (time call : Nat)
    (answer : Option (OpenSession Tree Query))
    : Prop where
  pending : ¬ (schedule.stage time call).HasReturned
  returned : schedule.stage (time + 1) call = .returned answer

/-- At a time a call files a session under an address where none is open. -/
structure Inserts (schedule : Schedule Tree Query) (time call : Nat) (uri : String)
    (opened : OpenSession Tree Query)
    : Prop where
  proceeds : ∃ surroundings, schedule.moves time = .proceed call surroundings
  vacant : schedule.find? time uri = none
  filed : schedule.find? (time + 1) uri = some opened

/-- The document that a call is about: the one that it opens, or the one that its host answered with
when it asked.
-/
def Provides (schedule : Schedule Tree Query) (call : Nat) (document : Document) : Prop :=
  match schedule.requests call with
  | .opening own => document = own
  | .resuming state =>
      ∃ time surroundings,
        schedule.moves time = .proceed call surroundings
        ∧ schedule.stage time call = .asking
        ∧ surroundings.host state.document = .ok document

end Schedule

/-- A session has the text of the document of a call and the view that the call asks for.  Only the
nodes of the view are listed anew.
-/
structure Request.Makes (request : Request) (document : Document) (session : Session Tree Query)
    : Prop where
  text : session.text = document.text
  state : session.state = { request.state with nodes := session.listing }

/-- One call alone filed a session, under the address that it asks for.  The session has the text of
its document and its view.
-/
def Schedule.InsertedOnce (schedule : Schedule Tree Query) (uri : String)
    (opened : OpenSession Tree Query)
    : Prop :=
  ∃ time call document,
    schedule.Inserts time call uri opened
    ∧ (schedule.requests call).uri = uri
    ∧ schedule.Provides call document
    ∧ (schedule.requests call).Makes document opened.session
    ∧ ∀ again other key,
        schedule.Inserts again other key opened → again = time ∧ other = call ∧ key = uri

-----------------------------------------------------------------------------------------
-- One move
-----------------------------------------------------------------------------------------

/-- A session that is resumed is one that the call makes. -/
theorem Request.makes_of_resume {request : Request} {document : Document}
    {grammar : LoadedGrammar Tree Query} {matchLimit : Nat} {session : Session Tree Query}
    (resumed : Session.resume request.state document.text grammar matchLimit = .ok session)
    : request.Makes document session := by
  obtain ⟨_, rfl⟩ := Session.resume_eq_ok_iff.mp resumed
  exact ⟨rfl, rfl⟩

section Progress

variable {explorer next : Explorer Tree Query} {request : Request}
variable {surroundings : Surroundings Tree Query} {stage reached : Stage Tree Query}

/-- A call that takes a step leaves the open sessions where they are. -/
theorem Progress.find?_of_open
    (progress : Progress explorer request surroundings stage reached next)
    {uri : String} {opened : OpenSession Tree Query} (isOpen : explorer.find? uri = some opened)
    : next.find? uri = some opened := by
  cases progress with
  | committed document session => exact find?_commit_of_open isOpen session
  | answered | found | missed | loaded | built | failed | rested => exact isOpen

/-- Where a step of a call files a session, it had made the session for that address.  The session
gets the next number.
-/
theorem Progress.filed
    (progress : Progress explorer request surroundings stage reached next)
    {uri : String} {opened : OpenSession Tree Query}
    (vacant : explorer.find? uri = none) (filed : next.find? uri = some opened)
    : ∃ document session,
        stage = .committing document session
        ∧ document.uri = uri
        ∧ opened = ⟨explorer.count, session⟩
        ∧ next.count = explorer.count + 1 := by
  cases progress with
  | answered | found | missed | loaded | built | failed | rested =>
      cases vacant.symm.trans filed
  | committed document session =>
      by_cases own : document.uri = uri
      · subst own
        rw [find?_commit_self] at filed
        rw [commit_of_vacant vacant] at filed ⊢
        cases filed
        exact ⟨document, session, rfl, rfl, rfl, rfl⟩
      · rw [explorer.find?_commit_of_ne (Ne.symm own)] at filed
        cases vacant.symm.trans filed

/-- A step of a call never lowers the count. -/
theorem Progress.count_le
    (progress : Progress explorer request surroundings stage reached next)
    : explorer.count ≤ next.count := by
  cases progress with
  | committed document session =>
      cases present : explorer.find? document.uri with
      | some existing => rw [commit_of_open present]
      | none =>
          rw [commit_of_vacant present]
          exact Nat.le_succ _
  | answered | found | missed | loaded | built | failed | rested => exact Nat.le_refl _

/-- A step of a call that does not return a session leaves the explorer as it is. -/
theorem Progress.explorer_eq
    (progress : Progress explorer request surroundings stage reached next)
    (without : ∀ opened, reached ≠ .returned (some opened))
    : next = explorer := by
  cases progress with
  | committed document session => exact (without _ rfl).elim
  | answered | found | missed | loaded | built | failed | rested => rfl

/-- A call that has returned does not come to another answer. -/
theorem Progress.eq_of_returned {answer : Option (OpenSession Tree Query)}
    (progress : Progress explorer request surroundings (.returned answer) reached next)
    : reached = .returned answer := by
  cases progress with
  | failed pending => exact (pending trivial).elim
  | rested => rfl

/-- What a call returns is open under its address, if what it made is for that address. -/
theorem Progress.find?_of_returned {opened : OpenSession Tree Query}
    (progress : Progress explorer request surroundings stage (.returned (some opened)) next)
    (pending : ¬ stage.HasReturned)
    (own : ∀ document session, stage = .committing document session → document.uri = request.uri)
    : next.find? request.uri = some opened := by
  cases progress with
  | found isOpen => exact isOpen
  | committed document session =>
      rw [← own document session rfl]
      exact find?_commit_self _ _ session
  | rested => exact (pending trivial).elim

end Progress

namespace Schedule

/-- A call progresses when it is its turn. -/
theorem progress {schedule : Schedule Tree Query} {time call : Nat}
    {surroundings : Surroundings Tree Query}
    (proceeds : schedule.moves time = .proceed call surroundings)
    : Progress (schedule.traffic time).explorer (schedule.requests call) surroundings
        (schedule.stage time call) (schedule.stage (time + 1) call)
        (schedule.traffic (time + 1)).explorer := by
  have reached : schedule.stage (time + 1) call
      = (advance (schedule.traffic time).explorer (schedule.requests call) surroundings
          (schedule.stage time call)).1 := by
    rw [stage, traffic, proceeds]
    exact Function.update_self _ _ _
  rw [reached, traffic, proceeds]
  exact advance_progress _ _ _ _

/-- A call stays where it is when it is not its turn. -/
theorem stage_succ_of_ne {schedule : Schedule Tree Query} {time call : Nat}
    (waits : ∀ surroundings, schedule.moves time ≠ .proceed call surroundings)
    : schedule.stage (time + 1) call = schedule.stage time call := by
  rw [stage, traffic]
  cases moved : schedule.moves time with
  | close uri => rfl
  | proceed other surroundings =>
      have different : call ≠ other := by
        rintro rfl
        exact waits surroundings moved
      exact Function.update_of_ne different _ _

/-- A call either takes a step or stays where it is. -/
theorem proceeds_or_waits (schedule : Schedule Tree Query) (time call : Nat)
    : (∃ surroundings, schedule.moves time = .proceed call surroundings)
      ∨ schedule.stage (time + 1) call = schedule.stage time call := by
  by_cases proceeds : ∃ surroundings, schedule.moves time = .proceed call surroundings
  · exact .inl proceeds
  · exact .inr (stage_succ_of_ne fun surroundings moved => proceeds ⟨surroundings, moved⟩)

/-- A call that returns does so by a step of its own. -/
theorem Returns.proceeds {schedule : Schedule Tree Query} {time call : Nat}
    {answer : Option (OpenSession Tree Query)} (returns : schedule.Returns time call answer)
    : ∃ surroundings, schedule.moves time = .proceed call surroundings := by
  rcases schedule.proceeds_or_waits time call with proceeds | waits
  · exact proceeds
  · refine (returns.pending ?_).elim
    rw [← waits, returns.returned]
    trivial

/-- A session stays open until it is closed. -/
theorem find?_succ {schedule : Schedule Tree Query} {time : Nat} {uri : String}
    {opened : OpenSession Tree Query} (isOpen : schedule.find? time uri = some opened)
    : schedule.find? (time + 1) uri = some opened
      ∨ schedule.moves time = .close uri ∧ schedule.find? (time + 1) uri = none := by
  cases moved : schedule.moves time with
  | proceed call surroundings => exact .inl ((progress moved).find?_of_open isOpen)
  | close other =>
      have closed : (schedule.traffic (time + 1)).explorer
          = ((schedule.traffic time).explorer.close other).2 := by
        rw [traffic, moved, Traffic.step]
      by_cases same : uri = other
      · subst same
        refine .inr ⟨rfl, ?_⟩
        rw [find?, closed]
        exact find?_close_self _ uri
      · refine .inl ?_
        rw [find?, closed, find?_close_of_ne _ same]
        exact isOpen

/-- A session that comes to be open was filed by the call whose turn it was. -/
theorem inserts_of_vacant {schedule : Schedule Tree Query} {time : Nat} {uri : String}
    {opened : OpenSession Tree Query} (vacant : schedule.find? time uri = none)
    (filed : schedule.find? (time + 1) uri = some opened)
    : ∃ call, schedule.Inserts time call uri opened := by
  cases moved : schedule.moves time with
  | proceed call surroundings => exact ⟨call, ⟨surroundings, moved⟩, vacant, filed⟩
  | close other =>
      rw [find?, traffic, moved, Traffic.step] at filed
      by_cases same : uri = other
      · subst same
        cases (find?_close_self _ uri).symm.trans filed
      · rw [find?_close_of_ne _ same] at filed
        cases vacant.symm.trans filed

/-- A call that files a session had made it for that address.  The session has the number that the
count gave, and the count goes on from there.
-/
theorem Inserts.committed {schedule : Schedule Tree Query} {time call : Nat} {uri : String}
    {opened : OpenSession Tree Query} (inserts : schedule.Inserts time call uri opened)
    : ∃ document session,
        schedule.stage time call = .committing document session
        ∧ document.uri = uri
        ∧ opened = ⟨(schedule.traffic time).explorer.count, session⟩
        ∧ (schedule.traffic (time + 1)).explorer.count
          = (schedule.traffic time).explorer.count + 1 := by
  obtain ⟨surroundings, proceeds⟩ := inserts.proceeds
  exact (progress proceeds).filed inserts.vacant inserts.filed

-----------------------------------------------------------------------------------------
-- All moves
-----------------------------------------------------------------------------------------

/-- The count never goes down. -/
theorem monotone_count (schedule : Schedule Tree Query)
    : Monotone fun time => (schedule.traffic time).explorer.count := by
  refine monotone_nat_of_le_succ fun time => ?_
  cases moved : schedule.moves time with
  | proceed call surroundings => exact (progress moved).count_le
  | close uri =>
      rw [traffic, moved, Traffic.step, close]
      cases (schedule.traffic time).explorer.find? uri <;> exact Nat.le_refl _

/-- What a call returned stays as it is. -/
theorem stage_of_returned {schedule : Schedule Tree Query} {time later call : Nat}
    {answer : Option (OpenSession Tree Query)}
    (returned : schedule.stage time call = .returned answer) (after : time ≤ later)
    : schedule.stage later call = .returned answer := by
  induction later, after using Nat.le_induction with
  | base => exact returned
  | succ later _ ih =>
      rcases schedule.proceeds_or_waits later call with ⟨surroundings, proceeds⟩ | waits
      · have came := progress proceeds
        rw [ih] at came
        exact came.eq_of_returned
      · rw [waits, ih]

/-- A session that is not closed stays open. -/
theorem find?_of_open {schedule : Schedule Tree Query} {time later : Nat} {uri : String}
    {opened : OpenSession Tree Query} (isOpen : schedule.find? time uri = some opened)
    (after : time ≤ later)
    (unclosed : ∀ between, time ≤ between → between < later → schedule.moves between ≠ .close uri)
    : schedule.find? later uri = some opened := by
  induction later, after using Nat.le_induction with
  | base => exact isOpen
  | succ later after ih =>
      have here := ih fun between lower upper =>
        unclosed between lower (Nat.lt_succ_of_lt upper)
      rcases find?_succ here with still | ⟨closed, _⟩
      · exact still
      · exact (unclosed later after (Nat.lt_succ_self later) closed).elim

/-- Each open session was filed by a call. -/
theorem inserts_of_open {schedule : Schedule Tree Query} {time : Nat} {uri : String}
    {opened : OpenSession Tree Query} (isOpen : schedule.find? time uri = some opened)
    : ∃ earlier call, schedule.Inserts earlier call uri opened := by
  induction time with
  | zero =>
      rw [find?, traffic, Explorer.find?, schedule.vacant] at isOpen
      cases isOpen
  | succ time ih =>
      cases before : schedule.find? time uri with
      | none => exact ⟨time, inserts_of_vacant before isOpen⟩
      | some existing =>
          rcases find?_succ before with still | ⟨_, closed⟩
          · cases still.symm.trans isOpen
            exact ih before
          · cases closed.symm.trans isOpen

/-- No session is filed after one that has its number. -/
theorem Inserts.not_lt {schedule : Schedule Tree Query} {time later call other : Nat}
    {uri key : String} {opened : OpenSession Tree Query}
    (inserts : schedule.Inserts time call uri opened)
    (again : schedule.Inserts later other key opened)
    : ¬ time < later := by
  intro before
  obtain ⟨_, _, _, _, numbered, counted⟩ := inserts.committed
  obtain ⟨_, _, _, _, renumbered, _⟩ := again.committed
  have grown : (schedule.traffic (time + 1)).explorer.count
      ≤ (schedule.traffic later).explorer.count := schedule.monotone_count before
  have same := congrArg OpenSession.number (numbered.symm.trans renumbered)
  simp only at same
  omega

/-- A session is filed once, by one call. -/
theorem Inserts.unique {schedule : Schedule Tree Query} {time again call other : Nat}
    {uri key : String} {opened : OpenSession Tree Query}
    (inserts : schedule.Inserts time call uri opened)
    (repeated : schedule.Inserts again other key opened)
    : again = time ∧ other = call ∧ key = uri := by
  have same : again = time :=
    Nat.le_antisymm (Nat.not_lt.mp (inserts.not_lt repeated))
      (Nat.not_lt.mp (repeated.not_lt inserts))
  subst same
  obtain ⟨_, proceeds⟩ := inserts.proceeds
  obtain ⟨_, proceeds'⟩ := repeated.proceeds
  cases proceeds.symm.trans proceeds'
  obtain ⟨document, _, committing, filed, _⟩ := inserts.committed
  obtain ⟨document', _, committing', filed', _⟩ := repeated.committed
  cases committing.symm.trans committing'
  exact ⟨rfl, rfl, filed'.symm.trans filed⟩

-----------------------------------------------------------------------------------------
-- What calls have
-----------------------------------------------------------------------------------------

/-- What a call has at a stage is its own: the document was provided to it, and it made the session. -/
def Backs (schedule : Schedule Tree Query) (call : Nat) : Stage Tree Query → Prop
  | .asking => ∃ state, schedule.requests call = .resuming state
  | .checking document | .loading document | .building document _ =>
      schedule.Provides call document
  | .committing document session =>
      schedule.Provides call document ∧ (schedule.requests call).Makes document session
  | .returned _ => True

/-- The document of a call has the address that the call asks for. -/
theorem Provides.uri {schedule : Schedule Tree Query} {call : Nat} {document : Document}
    (provides : schedule.Provides call document)
    : document.uri = (schedule.requests call).uri := by
  rw [Provides] at provides
  cases request : schedule.requests call with
  | opening own =>
      rw [request] at provides
      exact congrArg Document.uri provides
  | resuming state =>
      rw [request] at provides
      obtain ⟨time, surroundings, proceeds, _, answer⟩ := provides
      exact schedule.faithful time call surroundings proceeds _ _ answer

/-- A call that has only what is its own gets only what is its own. -/
theorem Backs.progress {schedule : Schedule Tree Query} {time call : Nat}
    {surroundings : Surroundings Tree Query}
    (backed : schedule.Backs call (schedule.stage time call))
    (proceeds : schedule.moves time = .proceed call surroundings)
    : schedule.Backs call (schedule.stage (time + 1) call) := by
  have came := Schedule.progress proceeds
  generalize before : schedule.stage time call = stage at came backed
  generalize schedule.stage (time + 1) call = reached at came ⊢
  generalize (schedule.traffic (time + 1)).explorer = next at came
  cases came with
  | @answered document answer =>
      obtain ⟨state, request⟩ := backed
      rw [request] at answer
      rw [Backs, Provides, request]
      exact ⟨time, surroundings, proceeds, before, answer⟩
  | missed | loaded => exact backed
  | built resumed => exact ⟨backed, Request.makes_of_resume resumed⟩
  | found | committed | failed | rested => trivial

/-- Each call has only what is its own, by induction over time. -/
theorem backs (schedule : Schedule Tree Query) (time call : Nat)
    : schedule.Backs call (schedule.stage time call) := by
  induction time with
  | zero =>
      have begins : schedule.stage 0 call = (schedule.requests call).stage := rfl
      rw [begins]
      cases request : schedule.requests call with
      | opening own => rw [Request.stage, Backs, Provides, request]
      | resuming state => exact ⟨state, request⟩
  | succ time ih =>
      rcases schedule.proceeds_or_waits time call with ⟨surroundings, proceeds⟩ | waits
      · exact ih.progress proceeds
      · rw [waits]
        exact ih

/-- A call that is about to file a session files it under the address that it asks for. -/
theorem uri_of_committing {schedule : Schedule Tree Query} {time call : Nat}
    {document : Document} {session : Session Tree Query}
    (committing : schedule.stage time call = .committing document session)
    : document.uri = (schedule.requests call).uri := by
  have backed := schedule.backs time call
  rw [committing] at backed
  exact backed.1.uri

/-- A call returns the session that is open under its address then. -/
theorem Returns.find?_eq {schedule : Schedule Tree Query} {time call : Nat}
    {opened : OpenSession Tree Query} (returns : schedule.Returns time call (some opened))
    : schedule.find? (time + 1) (schedule.requests call).uri = some opened := by
  obtain ⟨surroundings, proceeds⟩ := returns.proceeds
  have came := progress proceeds
  rw [returns.returned] at came
  exact came.find?_of_returned returns.pending fun _ _ => uri_of_committing

/-- Each open session was filed by one call alone, and is what that call made. -/
theorem insertedOnce_of_open {schedule : Schedule Tree Query} {time : Nat} {uri : String}
    {opened : OpenSession Tree Query} (isOpen : schedule.find? time uri = some opened)
    : schedule.InsertedOnce uri opened := by
  obtain ⟨earlier, call, inserts⟩ := inserts_of_open isOpen
  obtain ⟨document, session, committing, filed, rfl, _⟩ := inserts.committed
  have backed := schedule.backs earlier call
  rw [committing] at backed
  obtain ⟨provides, makes⟩ := backed
  exact ⟨earlier, call, document, inserts, provides.uri.symm.trans filed, provides, makes,
    fun _ _ _ repeated => inserts.unique repeated⟩

/-- A call that fails leaves the explorer as it is in each of its steps. -/
theorem explorer_of_failed {schedule : Schedule Tree Query} {time last call : Nat}
    {surroundings : Surroundings Tree Query}
    (failed : schedule.stage last call = .returned none)
    (proceeds : schedule.moves time = .proceed call surroundings)
    : (schedule.traffic (time + 1)).explorer = (schedule.traffic time).explorer := by
  refine (progress proceeds).explorer_eq fun opened returned => ?_
  -- Two answers of one call cannot differ, whichever came first.
  have late := stage_of_returned returned (Nat.le_max_left (time + 1) last)
  have same := stage_of_returned failed (Nat.le_max_right (time + 1) last)
  cases late.symm.trans same

end Schedule

/-- Whatever the order in which the steps of calls come, and whatever is closed in between: an open
session stays until its address is closed; a call that succeeds returns the session that is open
under its address then; two calls for one address return the same session unless the address is closed
between their last steps, and one call alone has made and filed it; and a call that fails changes
nothing.
-/
theorem Schedule.calls_converge (schedule : Schedule Tree Query)
    : (∀ time uri opened,
        schedule.find? time uri = some opened
        → schedule.find? (time + 1) uri = some opened
          ∨ schedule.moves time = .close uri ∧ schedule.find? (time + 1) uri = none)
      ∧ (∀ time call opened,
          schedule.Returns time call (some opened)
          → schedule.find? (time + 1) (schedule.requests call).uri = some opened)
      ∧ (∀ time later call other uri opened another,
          schedule.Returns time call (some opened)
          → schedule.Returns later other (some another)
          → (schedule.requests call).uri = uri
          → (schedule.requests other).uri = uri
          → time ≤ later
          → (∀ between, time < between → between < later → schedule.moves between ≠ .close uri)
          → another = opened ∧ schedule.InsertedOnce uri opened)
      ∧ ∀ time last call surroundings,
          schedule.stage last call = .returned none
          → schedule.moves time = .proceed call surroundings
          → (schedule.traffic (time + 1)).explorer = (schedule.traffic time).explorer := by
  refine ⟨fun _ _ _ => Schedule.find?_succ, fun _ _ _ returns => returns.find?_eq, ?_,
    fun _ _ _ _ => Schedule.explorer_of_failed⟩
  intro time later call other uri opened another first second asked asked' order unclosed
  have here := first.find?_eq
  have there := second.find?_eq
  rw [asked] at here
  rw [asked'] at there
  have still : schedule.find? (later + 1) uri = some opened := by
    refine Schedule.find?_of_open here (Nat.succ_le_succ order) fun between lower upper => ?_
    rcases Nat.lt_succ_iff_lt_or_eq.mp upper with inside | rfl
    · exact unclosed between lower inside
    · -- The last step is one of a call and not a close.
      obtain ⟨surroundings, proceeds⟩ := second.proceeds
      rw [proceeds]
      nofun
  cases still.symm.trans there
  exact ⟨rfl, Schedule.insertedOnce_of_open here⟩

/-- A call opens a document, another resumes its view with a query, and they take turns.  The second
is the first to file its session.
-/
def overtaking : Schedule String Unit where
  explorer := CommentLines.explorer .missing
  vacant := rfl
  requests call :=
    if call = 0 then .opening (CommentLines.document "file:///a.js" "//a")
    else .resuming { document := "file:///a.js", queryText := CommentLines.query }
  moves time :=
    .proceed ([1, 0, 1, 0, 1, 0, 1, 1].getD time 0) {
      host := fun uri => .ok (CommentLines.document uri "//b")
      grammars := fun language => ((CommentLines.explorer .missing).registry.get language).1 }
  faithful := by
    rintro _ _ _ ⟨⟩ uri document ⟨⟩
    rfl

/-- The call that was overtaken returns the session of the other, with the text and the query of that
one.
-/
theorem calls_converge_overtaking
    : ∃ opened,
        overtaking.Returns 7 1 (some opened)
        ∧ overtaking.Returns 8 0 (some opened)
        ∧ overtaking.InsertedOnce "file:///a.js" opened
        ∧ opened.session.text = "//b"
        ∧ opened.session.state.queryText = CommentLines.query := by
  have first : ∃ opened, overtaking.Returns 7 1 (some opened)
      ∧ opened.session.text = "//b"
      ∧ opened.session.state.queryText = CommentLines.query :=
    ⟨_, ⟨id, rfl⟩, rfl, rfl⟩
  have second : ∃ another, overtaking.Returns 8 0 (some another) := ⟨_, ⟨id, rfl⟩⟩
  obtain ⟨opened, returns, text, query⟩ := first
  obtain ⟨another, returns'⟩ := second
  obtain ⟨_, _, converges, _⟩ := overtaking.calls_converge
  obtain ⟨rfl, once⟩ := converges 7 8 1 0 "file:///a.js" opened another returns returns' rfl rfl
    (by decide) fun between after before => by omega
  exact ⟨another, returns, returns', once, text, query⟩

end SyntaxExplorer.Explorer
