import SyntaxExplorer.Proofs.Explorer.Discarding
import SyntaxExplorer.Proofs.Explorer.Sparing

/-! A view that is suspended and resumed goes on as it was: any number of times, with any texts in
between, and whatever is done with other documents meanwhile.
-/

namespace SyntaxExplorer

open SessionStore

variable {Tree Query : Type}

namespace Explorer

/-- The session of a document takes the calls that reach it, by induction over them.  They leave the
saved states and the grammars alone.
-/
theorem after_visits {explorer : Explorer Tree Query} {uri : String}
    {opened : OpenSession Tree Query} (isOpen : explorer.find? uri = some opened)
    (calls : List Session.Call)
    : let next := explorer.after (calls.map (.visit uri))
      next.find? uri = some { opened with session := opened.session.after calls }
      ∧ next.store = explorer.store
      ∧ next.registry = explorer.registry := by
  induction calls generalizing explorer opened with
  | nil => exact ⟨isOpen, rfl, rfl⟩
  | cons call rest ih =>
      have next : (explorer.perform (.visit uri call)).find? uri
            = some { opened with session := (opened.session.handle call).2 }
          ∧ (explorer.perform (.visit uri call)).store = explorer.store
          ∧ (explorer.perform (.visit uri call)).registry = explorer.registry := by
        rw [perform, withSession, isOpen]
        exact ⟨lookup_replace_self isOpen _, rfl, rfl⟩
      obtain ⟨found, store, registry⟩ := ih next.1
      exact ⟨found, store.trans next.2.1, registry.trans next.2.2⟩

-----------------------------------------------------------------------------------------
-- Resuming a saved state
-----------------------------------------------------------------------------------------

/-- A session resumed from a saved state is open under its address, and the state is no longer
saved.  It has the text and the view of the state, with the nodes of that text; what nodes were
saved has no part in it.
-/
structure Restored (explorer : Explorer Tree Query) (uri : String) (saved : ViewState)
    (source : String) (grammar : LoadedGrammar Tree Query) (resumed : OpenSession Tree Query)
    : Prop where
  filed : explorer.find? uri = some resumed
  unsaved : explorer.store.find? (fileOf uri) = none
  text : resumed.session.text = source
  view
    : resumed.session.state
      = { saved with
          nodes := grammar.engine.listing (grammar.engine.parse source none).tree source
            saved.anonymousShown }
  generation : resumed.session.generation = 0
  captures : resumed.session.captures = []
  logging : resumed.session.isLogging = saved.logEnabled
  anyNodes
    : ∀ nodes,
        Session.resume { saved with nodes } source grammar explorer.matchLimit
        = .ok resumed.session

/-- A state that is saved is restored if no session of its document is open, the host has the
document and its grammar can be had.
-/
theorem resumeSaved_restores {explorer : Explorer Tree Query} {uri : String} {state : ViewState}
    {host : Host} {document : Document} {grammar : LoadedGrammar Tree Query}
    (has : explorer.store.Has uri state) (vacant : explorer.find? uri = none)
    (addressed : explorer.isAddress uri = true) (answered : host uri = .ok document)
    (own : document.uri = uri)
    (loaded : (explorer.registry.get document.language).1 = .ok grammar)
    (readable : grammar.build.check = .ok ())
    : ∃ resumed,
        (explorer.resumeSaved uri host).1 = some resumed
        ∧ Restored (explorer.resumeSaved uri host).2 uri state document.text grammar resumed := by
  have named := has.own
  have created := create_of_loaded state loaded readable
  simp only [own, commit_of_vacant vacant] at created
  have whole : explorer.resume state host
      = ((explorer.create state document).1.toOption, (explorer.create state document).2) := by
    rw [Explorer.resume, named, if_pos addressed, answered, vacant]
  have removed := has.remove
  rw [resumeSaved_of_has has, whole, created]
  refine ⟨_, rfl, List.lookup_cons_self, removed, rfl, rfl, rfl, rfl, rfl, fun nodes => ?_⟩
  -- The nodes of a state do not reach the session that is made with it.
  exact Session.resume_eq_ok_iff.mpr ⟨readable, rfl⟩

-----------------------------------------------------------------------------------------
-- Rounds
-----------------------------------------------------------------------------------------

/-- What happens to the view of a document in one round: it takes some calls, is suspended, other
operations follow, and it is resumed.  By then the host has some text of the document.
-/
structure Round (Tree Query : Type) where
  calls : List Session.Call
  others : List Operation
  host : Host
  document : Document
  grammar : LoadedGrammar Tree Query

namespace Round

/-- The explorer once the view took its calls. -/
def visited (round : Round Tree Query) (explorer : Explorer Tree Query) (uri : String)
    : Explorer Tree Query :=
  explorer.after (round.calls.map (.visit uri))

/-- The explorer once the view was suspended. -/
def suspended (round : Round Tree Query) (explorer : Explorer Tree Query) (uri : String)
    : Explorer Tree Query :=
  ((round.visited explorer uri).suspend uri).2

/-- The explorer once the other operations followed. -/
def away (round : Round Tree Query) (explorer : Explorer Tree Query) (uri : String)
    : Explorer Tree Query :=
  (round.suspended explorer uri).after round.others

/-- The session in which the view was resumed, if it was, and the explorer then. -/
def resumed (round : Round Tree Query) (explorer : Explorer Tree Query) (uri : String)
    : Option (OpenSession Tree Query) × Explorer Tree Query :=
  (round.away explorer uri).resumeSaved uri round.host

/-- Until its view is resumed, a round leaves alone which texts are addresses. -/
theorem isAddress_away (round : Round Tree Query) (explorer : Explorer Tree Query) (uri : String)
    : (round.away explorer uri).isAddress = explorer.isAddress :=
  calc (round.away explorer uri).isAddress
    _ = (round.suspended explorer uri).isAddress := isAddress_after _ round.others
    _ = (round.visited explorer uri).isAddress := isAddress_perform _ (.suspend uri)
    _ = explorer.isAddress := isAddress_after _ _

/-- A round leaves alone which texts are addresses. -/
theorem isAddress_resumed (round : Round Tree Query) (explorer : Explorer Tree Query)
    (uri : String)
    : (round.resumed explorer uri).2.isAddress = explorer.isAddress :=
  (isAddress_perform _ (.resumeSaved uri round.host)).trans (round.isAddress_away explorer uri)

/-- What a round asks for: the state is saved and its numbers and lengths fit the format, where the
lengths are those of 32 bits that MessagePack can write; the other operations spare the document, and
the host and the grammar of its document can be had.
-/
structure Succeeds (round : Round Tree Query) (explorer : Explorer Tree Query) (uri : String)
    : Prop where
  suspends : ∃ file, ((round.visited explorer uri).suspend uri).1 = .ok file
  fits
    : ∀ opened,
        (round.visited explorer uri).find? uri = some opened
        → ViewState.format.Fits opened.session.state
  spared : (round.suspended explorer uri).SparesAll uri round.others
  answered : round.host uri = .ok round.document
  own : round.document.uri = uri
  loaded
    : ((round.away explorer uri).registry.get round.document.language).1 = .ok round.grammar
  readable : round.grammar.build.check = .ok ()

end Round

/-- The explorer after some rounds of the view of a document. -/
def afterRounds (explorer : Explorer Tree Query) (uri : String) (rounds : List (Round Tree Query))
    : Explorer Tree Query :=
  rounds.foldl (fun explorer round => (round.resumed explorer uri).2) explorer

/-- Each of some rounds has what it asks for when its turn comes. -/
def AllSucceed (explorer : Explorer Tree Query) (uri : String)
    : List (Round Tree Query) → Prop
  | [] => True
  | round :: rest =>
      round.Succeeds explorer uri ∧ (round.resumed explorer uri).2.AllSucceed uri rest

/-- One round restores the view that its calls led to. -/
theorem Round.Succeeds.restores {round : Round Tree Query} {explorer : Explorer Tree Query}
    {uri : String} {opened : OpenSession Tree Query} (succeeds : round.Succeeds explorer uri)
    (isOpen : explorer.find? uri = some opened) (own : opened.session.uri = uri)
    (addressed : explorer.isAddress uri = true)
    : ∃ kept resumed,
        (round.visited explorer uri).find? uri = some kept
        ∧ kept.session = opened.session.after round.calls
        ∧ (round.resumed explorer uri).1 = some resumed
        ∧ Restored (round.resumed explorer uri).2 uri kept.session.state round.document.text
            round.grammar resumed := by
  have visited : (round.visited explorer uri).find? uri
      = some { opened with session := opened.session.after round.calls } :=
    (after_visits isOpen round.calls).1
  obtain ⟨file, saved⟩ := succeeds.suspends
  obtain ⟨closed, store⟩ := suspend_leaves visited none
  rw [suspend_of_open visited none] at saved
  -- What is saved under the address is the state of its own document.
  have named : (opened.session.after round.calls).state.document = uri :=
    (opened.session.uri_after round.calls).trans own
  have has := has_of_save (succeeds.fits _ visited) saved
  rw [named, ← store] at has
  have agree := agreeAt_after succeeds.spared
  have still := (congrFun (round.isAddress_away explorer uri) uri).trans addressed
  obtain ⟨resumed, answer, restored⟩ := resumeSaved_restores (agree.has has)
    (agree.session.trans closed) still succeeds.answered succeeds.own succeeds.loaded
    succeeds.readable
  exact ⟨_, resumed, visited, rfl, answer, restored⟩

/-- A view that was suspended and resumed any number of times has the choices that all its calls led
to, and each time it is restored from the state in which it was suspended, by induction over the
rounds before.  The texts of the document may be others each time.
-/
theorem rounds_restore {explorer : Explorer Tree Query} {uri : String}
    {opened : OpenSession Tree Query} (isOpen : explorer.find? uri = some opened)
    (own : opened.session.uri = uri) (addressed : explorer.isAddress uri = true)
    (earlier : List (Round Tree Query)) (last : Round Tree Query)
    (succeed : explorer.AllSucceed uri (earlier ++ [last]))
    : let start := explorer.afterRounds uri earlier
      ∃ kept resumed,
        (last.visited start uri).find? uri = some kept
        ∧ kept.session.uri = uri
        ∧ kept.session.state.SameChoices
            (opened.session.after ((earlier ++ [last]).flatMap (·.calls))).state
        ∧ (last.resumed start uri).1 = some resumed
        ∧ Restored (last.resumed start uri).2 uri kept.session.state last.document.text
            last.grammar resumed := by
  induction earlier generalizing explorer opened with
  | nil =>
      obtain ⟨kept, resumed, visited, same, answer, restored⟩ :=
        succeed.1.restores isOpen own addressed
      rw [List.nil_append, List.flatMap_singleton]
      refine ⟨kept, resumed, visited, ?_, same ▸ .refl _, answer, restored⟩
      rw [same, Session.uri_after, own]
  | cons first rest ih =>
      obtain ⟨succeeds, others⟩ := succeed
      obtain ⟨kept, resumed, _, same, _, restored⟩ := succeeds.restores isOpen own addressed
      have named : resumed.session.uri = uri := by
        rw [Session.uri, restored.view]
        exact (congrArg Session.uri same).trans ((opened.session.uri_after first.calls).trans own)
      have still := (congrFun (first.isAddress_resumed explorer uri) uri).trans addressed
      obtain ⟨last', resumed', visited, named', choices, answer, restored'⟩ :=
        ih restored.filed named still others
      refine ⟨last', resumed', visited, named', choices.trans ?_, answer, restored'⟩
      -- The view goes on with the choices in which it was suspended.
      have goesOn : resumed.session.state.SameChoices
          (opened.session.after first.calls).state := by
        rw [restored.view, ← same]
        exact ⟨rfl, rfl, rfl, rfl, rfl⟩
      rw [List.cons_append, List.flatMap_cons, Session.after_append]
      exact Session.after_sameChoices goesOn _

/-- A view of comments gets a query and a trace and is suspended.  When it is resumed, the host has
another text.
-/
def commentRound : Round String Unit where
  calls :=
    [.request (.queryNode CommentLines.query), .event (.textChanged [.ofSpan "//a" 3 0 "\n//b"]),
      .request (.enableQuery true), .request (.logOutput true)]
  others := [.resume { document := "file:///b.js" } fun uri => .error (.documentNotFound uri)]
  host uri := .ok (CommentLines.document uri "//c\n//d")
  document := CommentLines.document "file:///a.js" "//c\n//d"
  grammar := CommentLines.grammar

/-- The view shows the new text, with the query and the trace that it had. -/
theorem rounds_restore_commentLines
    : let uri := "file:///a.js"
      let start := ((CommentLines.explorer .missing).open (CommentLines.document uri "//a")).2
      start.AllSucceed uri [commentRound]
      ∧ ∃ opened resumed,
          start.find? uri = some opened
          ∧ opened.session.uri = uri
          ∧ start.isAddress uri = true
          ∧ (commentRound.resumed start uri).1 = some resumed
          ∧ resumed.session.text = "//c\n//d"
          ∧ resumed.session.state.queryText = CommentLines.query
          ∧ resumed.session.state.nodes.map (·.text) = ["//c\n//d", "//c", "//d"]
          ∧ resumed.session.isLogging = true := by
  intro uri start
  have isOpen : start.find? uri = some ⟨0, CommentLines.session⟩ := rfl
  obtain ⟨visited, store, registry⟩ := after_visits isOpen commentRound.calls
  have succeeds : commentRound.Succeeds start uri := by
    refine ⟨?_, fun kept again => ?_, ⟨?_, trivial⟩, rfl, rfl, ?_, rfl⟩
    · have accepts : ¬ (start.after (commentRound.calls.map (.visit uri))).store.Refuses
          (CommentLines.session.after commentRound.calls).state.document := by
        have missing : start.store = .missing := rfl
        simp [Refuses, store, missing, Folder.find?]
      have saved := congrArg (·.1) (suspend_of_open visited none)
      rw [save_of_not_refuses accepts] at saved
      exact ⟨_, saved⟩
    · cases visited.symm.trans again
      decide +kernel
    · intro document answered
      cases answered
    · have suspended : (commentRound.suspended start uri).registry = start.registry := by
        rw [Round.suspended, Round.visited, suspend_of_open visited none, close_of_open visited]
        simpa only using registry
      have skipped (explorer : Explorer String Unit)
          : explorer.after commentRound.others = explorer := by
        change (Explorer.resume explorer _ _).2 = explorer
        rw [Explorer.resume]
        split <;> rfl
      rw [Round.away, skipped, suspended]
      rfl
  have addressed : start.isAddress queriedState.document = true := queriedState_isValid
  have succeed : start.AllSucceed uri [commentRound] := ⟨succeeds, trivial⟩
  obtain ⟨kept, resumed, again, _, _, answer, restored⟩ :=
    rounds_restore isOpen rfl addressed [] commentRound succeed
  cases visited.symm.trans again
  refine ⟨succeed, _, resumed, isOpen, rfl, addressed, answer, restored.text, ?_, ?_, ?_⟩
  · rw [restored.view]
    rfl
  · rw [restored.view]
    decide +kernel
  · rw [restored.logging]
    rfl

end Explorer

end SyntaxExplorer
