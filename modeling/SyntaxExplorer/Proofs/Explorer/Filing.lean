import SyntaxExplorer.Proofs.Explorer.Suspension

/-! Under which addresses sessions are filed, after any run of an explorer.  A session that is resumed
is of the document that its state was saved of, but it is filed under the address of the document
that the host answered with.
-/

namespace SyntaxExplorer

open SessionStore

variable {Tree Query : Type}

namespace Explorer

-----------------------------------------------------------------------------------------
-- Operations and runs
-----------------------------------------------------------------------------------------

/-- What is done with an explorer.  The view and the editor reach the session of a document through
its address.
-/
inductive Operation
  | «open» (document : Document)
  | resume (state : ViewState) (host : Host)
  | resumeSaved (uri : String) (host : Host)
  | close (uri : String)
  | suspend (uri : String) (mishap : Option SaveMishap := none)
  | visit (uri : String) (call : Session.Call)

/-- The explorer after an operation. -/
def perform (explorer : Explorer Tree Query) : Operation → Explorer Tree Query
  | .open document => (explorer.open document).2
  | .resume state host => (explorer.resume state host).2
  | .resumeSaved uri host => (explorer.resumeSaved uri host).2
  | .close uri => (explorer.close uri).2
  | .suspend uri mishap => (explorer.suspend uri mishap).2
  | .visit uri call => (explorer.withSession uri (·.handle call)).2

/-- The explorer after some operations. -/
def after (explorer : Explorer Tree Query) (operations : List Operation) : Explorer Tree Query :=
  operations.foldl perform explorer

/-- An operation asks for the document at one address and files its session under another, which is
the one that the host answers with where a host is asked.
-/
def Operation.Files : Operation → String → String → Prop
  | .open document, asked, key => asked = document.uri ∧ key = document.uri
  | .resume state host, asked, key =>
      asked = state.document ∧ ∃ document, host asked = .ok document ∧ document.uri = key
  | .resumeSaved uri host, asked, key =>
      asked = uri ∧ ∃ document, host asked = .ok document ∧ document.uri = key
  | _, _, _ => False

/-- An operation whose host is faithful, if it has one. -/
def Operation.IsFaithful : Operation → Prop
  | .resume _ host | .resumeSaved _ host => host.IsFaithful
  | _ => True

/-- With a faithful host, sessions are filed under the addresses of their documents. -/
theorem Operation.Files.eq {operation : Operation} {asked key : String}
    (files : operation.Files asked key) (faithful : operation.IsFaithful)
    : asked = key := by
  cases operation with
  | «open» document => exact files.1.trans files.2.symm
  | resume state host | resumeSaved uri host =>
      obtain ⟨_, document, answered, named⟩ := files
      exact (faithful asked document answered).symm.trans named
  | close | suspend | visit => exact files.elim

-----------------------------------------------------------------------------------------
-- What an operation does to the open sessions
-----------------------------------------------------------------------------------------

/-- All that an operation can do to the open sessions: leave them alone, file one where none was
open, take out one, or let one go on under its address.
-/
inductive Refiling (explorer : Explorer Tree Query) (operation : Operation)
    : List (String × OpenSession Tree Query) → Prop
  | kept : Refiling explorer operation explorer.sessions
  | filed {key opened} (vacant : explorer.find? key = none)
    (files : operation.Files opened.session.uri key)
    : Refiling explorer operation ((key, opened) :: explorer.sessions)
  | closed (uri : String)
    : Refiling explorer operation (explorer.sessions.filter (·.1 != uri))
  | visited {uri opened session} (isOpen : explorer.find? uri = some opened)
    (same : session.uri = opened.session.uri)
    : Refiling explorer operation
        (explorer.sessions.map fun (key, other) =>
          if key == uri then (key, { opened with session }) else (key, other))

/-- Each operation does one of these. -/
theorem perform_refiles (explorer : Explorer Tree Query) (operation : Operation)
    : Refiling explorer operation (explorer.perform operation).sessions := by
  cases operation with
  | «open» document =>
      simp only [perform, Explorer.open]
      cases present : explorer.find? document.uri with
      | some existing => exact .kept
      | none =>
          rcases (explorer.create_outcome { document := document.uri } document).sessions with
            same | ⟨opened, vacant, own, filed⟩
          · rw [same]
            exact .kept
          · rw [filed]
            exact .filed vacant ⟨own, rfl⟩
  | resume state host =>
      rcases (explorer.resume_outcome state host).sessions with
        same | ⟨document, opened, answered, vacant, own, filed⟩
      · rw [perform, same]
        exact .kept
      · rw [perform, filed]
        exact .filed vacant ⟨own, document, own ▸ answered, rfl⟩
  | resumeSaved uri host =>
      have outcome := explorer.resumeSaved_outcome uri host
      simp only [perform]
      generalize explorer.resumeSaved uri host = result at outcome
      obtain ⟨answer, next⟩ := result
      cases outcome with
      | unsaved store => exact .kept
      | skipped loaded outcome | resumed loaded outcome =>
          have own := document_of_load (congrArg (·.1) loaded)
          rcases outcome.sessions with same | ⟨document, opened, answered, vacant, named, filed⟩
          · rw [same]
            exact .kept
          · rw [filed]
            exact .filed vacant ⟨named.trans own, document, named ▸ answered, rfl⟩
  | close uri =>
      rw [perform, sessions_close]
      exact .closed uri
  | suspend uri mishap =>
      simp only [perform, suspend]
      have closed := explorer.sessions_close uri
      generalize explorer.close uri = result at closed
      obtain ⟨_ | state, next⟩ := result
      · rw [closed]
        exact .closed uri
      · rw [closed]
        exact .closed uri
  | visit uri call =>
      simp only [perform, withSession]
      cases isOpen : explorer.find? uri with
      | none => exact .kept
      | some opened => exact .visited isOpen (opened.session.uri_handle call)

/-- No operation changes which texts are addresses. -/
theorem isAddress_perform (explorer : Explorer Tree Query) (operation : Operation)
    : (explorer.perform operation).isAddress = explorer.isAddress := by
  cases operation with
  | «open» document =>
      simp only [perform, Explorer.open]
      split
      · rfl
      · obtain ⟨registry, sessions, count, refiled⟩ :=
          (explorer.create_outcome { document := document.uri } document).refiles
        rw [refiled]
  | resume state host =>
      obtain ⟨registry, sessions, count, refiled⟩ := (explorer.resume_outcome state host).refiles
      rw [perform, refiled]
  | resumeSaved uri host =>
      have outcome := explorer.resumeSaved_outcome uri host
      simp only [perform]
      generalize explorer.resumeSaved uri host = result at outcome ⊢
      obtain ⟨answer, next⟩ := result
      cases outcome with
      | unsaved store => rfl
      | skipped loaded outcome | resumed loaded outcome =>
          obtain ⟨registry, sessions, count, rfl⟩ := outcome.refiles
          rfl
  | close uri =>
      simp only [perform, close]
      split <;> rfl
  | suspend uri mishap =>
      simp only [perform, suspend, close]
      cases explorer.find? uri <;> rfl
  | visit uri call =>
      simp only [perform, withSession]
      split <;> rfl

/-- No run changes which texts are addresses, by induction over its operations. -/
theorem isAddress_after (explorer : Explorer Tree Query) (operations : List Operation)
    : (explorer.after operations).isAddress = explorer.isAddress := by
  induction operations generalizing explorer with
  | nil => rfl
  | cons operation rest ih => exact (ih (explorer.perform operation)).trans (isAddress_perform _ _)

-----------------------------------------------------------------------------------------
-- What holds after a run
-----------------------------------------------------------------------------------------

/-- Some operations account for the open sessions: there is one under each address at most, and one
of the operations filed it there.
-/
structure FiledBy (operations : List Operation) (sessions : List (String × OpenSession Tree Query))
    : Prop where
  distinct : (sessions.map (·.1)).Nodup
  filed
    : ∀ key opened,
        (key, opened) ∈ sessions
        → ∃ operation ∈ operations, operation.Files opened.session.uri key

/-- What is accounted for stays so when more operations follow. -/
theorem FiledBy.mono {operations later : List Operation}
    {sessions : List (String × OpenSession Tree Query)} (filed : FiledBy operations sessions)
    (included : operations ⊆ later)
    : FiledBy later sessions where
  distinct := filed.distinct
  filed key opened member := by
    obtain ⟨operation, done, files⟩ := filed.filed key opened member
    exact ⟨operation, included done, files⟩

/-- Replacing what is filed under an address keeps all addresses. -/
theorem keys_replace (sessions : List (String × OpenSession Tree Query)) (uri : String)
    (next : OpenSession Tree Query)
    : (sessions.map fun (key, other) => if key == uri then (key, next) else (key, other)).map (·.1)
      = sessions.map (·.1) := by
  rw [List.map_map]
  refine List.map_congr_left fun (key, other) _ => ?_
  simp only [Function.comp_apply]
  split <;> rfl

/-- An operation joins those that account for the open sessions.  The addresses stay distinct since
a session is only filed where none was open.
-/
theorem Refiling.filedBy {explorer : Explorer Tree Query} {operation : Operation}
    {sessions : List (String × OpenSession Tree Query)} {operations : List Operation}
    (refiling : Refiling explorer operation sessions)
    (filed : FiledBy operations explorer.sessions)
    : FiledBy (operations ++ [operation]) sessions := by
  have earlier := filed.mono (List.subset_append_left operations [operation])
  cases refiling with
  | kept => exact earlier
  | @filed key opened vacant files =>
      refine ⟨?_, ?_⟩
      · rw [List.map_cons, List.nodup_cons]
        refine ⟨fun member => ?_, earlier.distinct⟩
        obtain ⟨entry, present, same⟩ := List.mem_map.mp member
        have other := List.lookup_eq_none_iff.mp vacant entry present
        exact bne_iff_ne.mp other same.symm
      · intro other session member
        rcases List.mem_cons.mp member with here | there
        · cases here
          exact ⟨operation, List.mem_append_right _ (List.mem_singleton_self _), files⟩
        · exact earlier.filed other session there
  | closed uri =>
      refine ⟨?_, ?_⟩
      · exact earlier.distinct.sublist (List.filter_sublist.map _)
      · intro key opened member
        exact earlier.filed key opened (List.mem_filter.mp member).1
  | @visited uri opened session isOpen same =>
      refine ⟨?_, ?_⟩
      · rw [keys_replace]
        exact earlier.distinct
      · intro key other member
        obtain ⟨⟨name, before⟩, present, same'⟩ := List.mem_map.mp member
        simp only at same'
        split at same'
        · rename_i here
          cases same'
          cases beq_iff_eq.mp here
          obtain ⟨operation, done, files⟩ := earlier.filed uri opened (mem_of_lookup isOpen)
          exact ⟨operation, done, same ▸ files⟩
        · cases same'
          exact earlier.filed key other present

/-- The operations of a run account for the open sessions, by induction over the operations. -/
theorem FiledBy.after {explorer : Explorer Tree Query} {earlier : List Operation}
    (filed : FiledBy earlier explorer.sessions) (operations : List Operation)
    : FiledBy (earlier ++ operations) (explorer.after operations).sessions := by
  induction operations generalizing explorer earlier with
  | nil =>
      rw [List.append_nil]
      exact filed
  | cons operation rest ih =>
      have next := ih ((explorer.perform_refiles operation).filedBy filed)
      rw [List.append_assoc] at next
      exact next

/-- After any operations, with any hosts, no two sessions are open under one address, and each was
filed where the host answered that its document is; with faithful hosts that is its own address.
A session that is resumed then is found under the address of its state exactly if one was open there
or if the host answers with it.  A session that is suspended then is saved in the file of its own
document, wherever it was filed.
-/
theorem after_files {explorer : Explorer Tree Query} (vacant : explorer.sessions = [])
    (operations : List Operation)
    : let last := explorer.after operations
      (last.sessions.map (·.1)).Nodup
      ∧ (∀ key opened,
          (key, opened) ∈ last.sessions
          → (∃ operation ∈ operations, operation.Files opened.session.uri key)
            ∧ ((∀ operation ∈ operations, operation.IsFaithful) → opened.session.uri = key))
      ∧ (∀ state host opened,
          (last.resume state host).1 = some opened
          → ((last.resume state host).2.find? state.document = some opened
            ↔ (∃ existing, last.find? state.document = some existing)
              ∨ ∃ document, host state.document = .ok document ∧ document.uri = state.document))
      ∧ ∀ key opened mishap file,
          last.find? key = some opened
          → (last.suspend key mishap).1 = .ok file
          → file = fileOf opened.session.uri
            ∧ (last.suspend key mishap).2.store.read file
              = .ok (ViewState.format.pack opened.session.state) := by
  intro last
  have none : FiledBy [] explorer.sessions := by
    rw [vacant]
    exact ⟨List.nodup_nil, fun _ _ member => (List.not_mem_nil member).elim⟩
  obtain ⟨distinct, filed⟩ := none.after operations
  refine ⟨distinct, fun key opened member => ?_, fun state host opened resumed => ?_, ?_⟩
  · obtain ⟨operation, done, files⟩ := filed key opened member
    exact ⟨⟨operation, done, files⟩, fun faithful => files.eq (faithful operation done)⟩
  · exact find?_resume_iff resumed
  · intro key opened mishap file isOpen suspended
    exact read_of_suspend isOpen suspended

/-- A view that is resumed by a faithful host is found, suspended and resumed again. -/
theorem after_files_commentLines
    : let host : Host := fun uri => .ok (CommentLines.document uri "//a")
      let start := CommentLines.explorer .missing
      let operations : List Operation :=
        [.resume { document := "file:///a.js" } host, .suspend "file:///a.js",
          .open (CommentLines.document "file:///b.js" "//b"), .resume { document := "a" } host]
      start.sessions = []
      ∧ ∃ opened,
          (start.after operations).sessions = [("file:///b.js", opened)]
          ∧ opened.session.uri = "file:///b.js" := by
  intro host start operations
  have faithful : ∀ operation ∈ operations, operation.IsFaithful := by
    have answers : host.IsFaithful := by
      rintro uri document ⟨⟩
      rfl
    simp [operations, Operation.IsFaithful, answers]
  obtain ⟨_, filed, _⟩ := after_files (rfl : start.sessions = []) operations
  refine ⟨rfl, _, rfl, (filed _ _ (List.mem_singleton_self _)).2 faithful⟩

/-- The host of a moved document answers for its old address with the new one. -/
def movedHost : Host := fun _ => .ok (CommentLines.document "file:///b.js" "//a")

/-- A view that is resumed by the host of a moved document is filed where it is not looked for: under
the address of its state there is no session, and once it is suspended there is no state of the
address that it was filed under.
-/
theorem resume_misfiles_moved
    : let start := CommentLines.explorer .missing
      let resumed := start.resume { document := "file:///a.js" } movedHost
      ∃ opened,
        resumed.1 = some opened
        ∧ resumed.2.sessions = [("file:///b.js", opened)]
        ∧ opened.session.uri = "file:///a.js"
        ∧ resumed.2.find? "file:///a.js" = none
        ∧ ((resumed.2.suspend "file:///b.js").2.resumeSaved "file:///b.js" movedHost).1.isNone := by
  intro start resumed
  have filed : ∃ opened,
      resumed.1 = some opened
      ∧ resumed.2.sessions = [("file:///b.js", opened)]
      ∧ opened.session.uri = "file:///a.js" := ⟨_, rfl, rfl, rfl⟩
  obtain ⟨opened, answer, sessions, own⟩ := filed
  have isOpen : resumed.2.find? "file:///b.js" = some opened := by
    rw [find?, sessions]
    exact List.lookup_cons_self
  have vacant : resumed.2.find? "file:///a.js" = none := by
    rw [find?, sessions]
    rfl
  refine ⟨opened, answer, sessions, own, vacant, ?_⟩
  -- The state is saved for the old address, whose file is not that of the new one.
  have accepts : ¬ resumed.2.store.Refuses opened.session.state.document := by
    have missing : resumed.2.store = .missing := rfl
    simp [Refuses, missing, Folder.find?]
  have store := (suspend_leaves isOpen none).2
  rw [save_of_not_refuses accepts] at store
  have other : fileOf "file:///b.js" ≠ fileOf "file:///a.js" := by decide +kernel
  have document : opened.session.state.document = "file:///a.js" := own
  have skipped : (fileOf "file:///b.js" == fileOf opened.session.state.document) = false := by
    rw [document, beq_eq_false_iff_ne]
    exact other
  have entries : Folder.entries resumed.2.store = [] := rfl
  rw [resumeSaved, store, entries]
  simp [load, Folder.contains, Folder.find?, Folder.put, List.lookup_cons, skipped]

end Explorer

end SyntaxExplorer
