import SyntaxExplorer.Registry.GrammarRegistry
import SyntaxExplorer.Session.Session
import SyntaxExplorer.Store.SessionStore
import SyntaxExplorer.Uri.Validity
/-!
The explorer: the open sessions, one for each document, with the grammars that they share and the states
that were saved of others.
-/

namespace SyntaxExplorer

variable {Tree Query : Type}

/-- A document as the editor hands it out. -/
structure Document where
  uri : String
  language : LanguageId
  text : String
  deriving BEq, DecidableEq, Repr, Inhabited

/-- What the editor answers when it is asked for a document. -/
abbrev Host := String → Except HostFault Document

/-- A session that is open, with the number by which it is told from others. -/
structure OpenSession (Tree Query : Type) where
  number : Nat
  session : Session Tree Query

structure Explorer (Tree Query : Type) where
  registry : GrammarRegistry Tree Query
  /-- The most matches of a query that may be in progress at once. -/
  matchLimit : Nat
  /-- Which texts can be addresses of documents. -/
  isAddress : String → Bool := Uri.isValid
  store : SessionStore := .missing
  /-- The open sessions, under the addresses of their documents. -/
  sessions : List (String × OpenSession Tree Query) := []
  /-- How many sessions were ever opened. -/
  count : Nat := 0

namespace Explorer

/-- The open session of a document. -/
def find? (explorer : Explorer Tree Query) (uri : String) : Option (OpenSession Tree Query) :=
  explorer.sessions.lookup uri

def length (explorer : Explorer Tree Query) : Nat := explorer.sessions.length

def isEmpty (explorer : Explorer Tree Query) : Bool := explorer.sessions.isEmpty

/-- The addresses of the open documents, in order. -/
def uris (explorer : Explorer Tree Query) : List String :=
  (explorer.sessions.map (·.1)).mergeSort (fun a b => a ≤ b)

/-- Files a session under an address, unless there is one already.  The one that is there counts. -/
def commit (explorer : Explorer Tree Query) (uri : String) (session : Session Tree Query) :
    OpenSession Tree Query × Explorer Tree Query :=
  match explorer.find? uri with
  | some existing => (existing, explorer)
  | none =>
    let opened : OpenSession Tree Query := ⟨explorer.count, session⟩
    (opened, { explorer with
      sessions := (uri, opened) :: explorer.sessions, count := explorer.count + 1 })

/-- Makes a session for a document, with the view as a state has it. -/
def create (explorer : Explorer Tree Query) (state : ViewState) (document : Document) :
    Except Failure (OpenSession Tree Query) × Explorer Tree Query :=
  match explorer.registry.get document.language with
  | (.error failure, registry) => (.error failure, { explorer with registry })
  | (.ok grammar, registry) =>
    let explorer := { explorer with registry }
    match Session.resume state document.text grammar explorer.matchLimit with
    | .error failure => (.error failure, explorer)
    | .ok session =>
      let (opened, explorer) := explorer.commit document.uri session
      (.ok opened, explorer)

/-- Opens a document, or finds the session in which it is open. -/
def «open» (explorer : Explorer Tree Query) (document : Document) :
    Except Failure (OpenSession Tree Query) × Explorer Tree Query :=
  match explorer.find? document.uri with
  | some existing => (.ok existing, explorer)
  | none => explorer.create { document := document.uri } document

/-- Opens some documents, one after another. -/
def openAll (explorer : Explorer Tree Query) : List Document →
    List (Except Failure (OpenSession Tree Query)) × Explorer Tree Query
  | [] => ([], explorer)
  | document :: rest =>
    let (opened, explorer) := explorer.open document
    let (others, explorer) := explorer.openAll rest
    (opened :: others, explorer)

/-- Closes the session of a document, and hands out the last state of its view. -/
def close (explorer : Explorer Tree Query) (uri : String) :
    Option ViewState × Explorer Tree Query :=
  match explorer.find? uri with
  | none => (none, explorer)
  | some opened =>
    (some opened.session.state,
      { explorer with sessions := explorer.sessions.filter (·.1 != uri) })

/-- Closes the session of a document and saves the state of its view, and says under which name. -/
def suspend (explorer : Explorer Tree Query) (uri : String)
    (mishap : Option SessionStore.SaveMishap := none) :
    Except Failure String × Explorer Tree Query :=
  match explorer.close uri with
  | (none, explorer) => (.error (.internal s!"no open session for {uri}"), explorer)
  | (some state, explorer) =>
    let (saved, store) := explorer.store.save state mishap
    (saved, { explorer with store })

/-- Opens a document with the view as a state has it, if the editor still has the document.  A session
in which it is open already counts. -/
def resume (explorer : Explorer Tree Query) (state : ViewState) (host : Host) :
    Option (OpenSession Tree Query) × Explorer Tree Query :=
  if explorer.isAddress state.document then
    match host state.document with
    | .error _ => (none, explorer)
    | .ok document => match explorer.find? state.document with
      | some existing => (some existing, explorer)
      | none =>
        let (created, explorer) := explorer.create state document
        (created.toOption, explorer)
  else (none, explorer)

/-- Opens a document with the view as its saved state has it.  After that the saved state is gone. -/
def resumeSaved (explorer : Explorer Tree Query) (uri : String) (host : Host) :
    Option (OpenSession Tree Query) × Explorer Tree Query :=
  match explorer.store.load uri with
  | (.ok (some state), store) =>
    match { explorer with store }.resume state host with
    | (none, explorer) => (none, explorer)
    | (some opened, explorer) =>
      (some opened, { explorer with store := (SessionStore.remove explorer.store uri).2 })
  | (_, store) => (none, { explorer with store })

/-- Lets the open session of a document do something. -/
def withSession (explorer : Explorer Tree Query) (uri : String)
    (action : Session Tree Query → α × Session Tree Query) : Option α × Explorer Tree Query :=
  match explorer.find? uri with
  | none => (none, explorer)
  | some opened =>
    let (answer, session) := action opened.session
    let sessions := explorer.sessions.map fun (key, other) =>
      if key == uri then (key, { opened with session }) else (key, other)
    (some answer, { explorer with sessions })

end Explorer

end SyntaxExplorer
