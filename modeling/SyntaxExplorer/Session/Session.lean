import SyntaxExplorer.Session.DocumentParser
import SyntaxExplorer.Session.QueryRunner
import SyntaxExplorer.Text.Selection
import SyntaxExplorer.Tree.Span
import SyntaxExplorer.View.Publisher
/-!
Sessions.  A session holds one document with its tree and the state of its view.  Requests of the view
and events of the editor are handled one at a time, and answered by events for both.
-/

namespace SyntaxExplorer

variable {Tree Query : Type}

/-- The list of nodes that a view shows of a tree of a text. -/
def Engine.listing (engine : Engine Tree Query) (tree : Tree) (text : String) (anonymous : Bool) :
    List FlatNode :=
  (FlatTree.ofNode text anonymous (engine.root tree)).nodes

structure Session (Tree Query : Type) where
  text : String
  tree : Tree
  /-- How many batches of changes led to the text. -/
  generation : Nat := 0
  parser : DocumentParser Tree Query
  state : ViewState
  colors : ColorAssigner := {}
  queries : QueryRunner Query
  /-- What the last run of the query captured. -/
  captures : List Capture := []
  isVisible : Bool := true
  isActive : Bool := true
  publisher : Publisher := {}

namespace Session

def uri (session : Session Tree Query) : String := session.state.document

def grammar (session : Session Tree Query) : LoadedGrammar Tree Query := session.parser.grammar

def isLogging (session : Session Tree Query) : Bool := session.parser.isLogging

/-- The root of the tree, its nodes numbered in the order of the walk. -/
def root (session : Session Tree Query) : Node := session.grammar.engine.root session.tree

/-- The nodes that the view is to show. -/
def listing (session : Session Tree Query) : List FlatNode :=
  session.grammar.engine.listing session.tree session.text session.state.anonymousShown

/-- Lists the nodes of the tree anew and publishes the state of the view. -/
def refresh (session : Session Tree Query) : Refresh × Session Tree Query :=
  let state := { session.state with nodes := session.listing }
  let refresh := state.refresh
  let publisher := (session.publisher.publish session.generation refresh).2
  (refresh, { session with state, publisher })

/-- A session for a text in a grammar, with the view as a saved state has it.  The saved nodes do not
count. -/
def resume (state : ViewState) (text : String) (grammar : LoadedGrammar Tree Query)
    (matchLimit : Nat) : Except Failure (Session Tree Query) := do
  let parser ← DocumentParser.ofGrammar grammar
  let parser := { parser with isLogging := state.logEnabled }
  let session : Session Tree Query :=
    { text, tree := (parser.parse text).tree, parser, state, queries := { matchLimit } }
  return session.refresh.2

/-- A session for a document, with a view that shows what it shows at first. -/
def «open» (uri text : String) (grammar : LoadedGrammar Tree Query) (matchLimit : Nat) :
    Except Failure (Session Tree Query) :=
  resume { document := uri } text grammar matchLimit

/-- Applies a batch of changes, each to the text that the one before it left, and parses once.  Unless
all of them apply, the session stays as it was. -/
def applyChanges (session : Session Tree Query) (changes : List TextChange) :
    Except Failure Unit × Session Tree Query :=
  if changes.isEmpty then (.ok (), session)
  else
    let updated := do
      let (edits, text) ← TextChange.applyEach changes session.text
      return (text, ← session.parser.update session.tree edits text)
    match updated with
    | .error fault => (.error (.ofEdit fault), session)
    | .ok (text, reading) =>
      (.ok (), { session with text, tree := reading.tree, generation := session.generation + 1 })

/-- Runs the active query.  Its captures take the place of the earlier ones. -/
def runQuery (session : Session Tree Query) : List ViewEvent × Session Tree Query :=
  match session.state.activeQuery? with
  | none =>
    ([.clearDecorations, .queryDone []],
      { session with captures := [], colors := session.colors.reset })
  | some query =>
    let outcome :=
      session.queries.run session.grammar session.tree session.text query session.colors
    let session := { session with queries := outcome.runner, colors := outcome.colors }
    match outcome.captures with
    | .ok captures => ([.clearDecorations, .queryDone captures], { session with captures })
    | .error failure =>
      let fault := failure.queryFault?.getD ⟨failure.message, 0, 0⟩
      ([.clearDecorations, .queryError fault], { session with captures := [] })

/-- What becomes of a selection in the view: clicks count always, all else while the view is active
and nodes are mapped. -/
def selectText (session : Session Tree Query) (selection : TextSelection) : List ViewEvent :=
  if selection.isClick || (session.state.mappingEnabled && session.isActive) then
    match selection.span? with
    | some (start, stop) => [.selectRange start stop]
    | none => [.clearSelection]
  else []

/-- Does what the view asks for. -/
def handleRequest (session : Session Tree Query) :
    ViewRequest → List ViewEvent × Session Tree Query
  | .showAnonymousNodes value =>
    let session := { session with state := { session.state with anonymousShown := value } }
    let (refresh, session) := session.refresh
    ([.refresh refresh], session)
  | .enableNodeMapping value =>
    ([], { session with state := { session.state with mappingEnabled := value } })
  | .selectEditorText selection => (session.selectText selection, session)
  | .enableQuery value =>
    { session with state := { session.state with queryEnabled := value } }.runQuery
  | .queryNode text =>
    { session with state := { session.state with queryText := text } }.runQuery
  | .logOutput value =>
    ([], { session with
      state := { session.state with logEnabled := value }
      parser := { session.parser with isLogging := value } })

/-- The smallest node that spans a selection in the editor. -/
def nodeAt? (session : Session Tree Query) (anchor active : Point) : Option Node := do
  let lines := LineIndex.ofText session.text
  let (start, stop) ← Selection.span? session.text lines anchor active
  session.root.smallestSpanning? (lines.positionAt start) (lines.positionAt stop)

/-- Takes over a batch of changes, and runs the query again if there is one. -/
def changeText (session : Session Tree Query) (changes : List TextChange) :
    Except Failure (List ViewEvent) × Session Tree Query :=
  if changes.isEmpty then (.ok [], session)
  else match session.applyChanges changes with
    | (.error failure, session) => (.error failure, session)
    | (.ok (), session) =>
      let (refresh, session) := session.refresh
      if session.state.activeQuery?.isSome then
        let (events, session) := session.runQuery
        (.ok (.refresh refresh :: events), session)
      else (.ok [.refresh refresh], session)

/-- What a selection in the editor leads to.  The view follows it while it is visible, unless it is
the one that is active. -/
def followSelection (session : Session Tree Query) (anchor active : Point) (kind : SelectionKind) :
    List ViewEvent :=
  let cleared := if kind = .mouse then [.clearSelection] else []
  let followed := if session.isVisible && !session.isActive then
      (session.nodeAt? anchor active).toList.map fun node => .gotoNode node.id
    else []
  cleared ++ followed

/-- Takes over what happened in the editor. -/
def handleEvent (session : Session Tree Query) :
    EditorEvent → Except Failure (List ViewEvent) × Session Tree Query
  | .textChanged changes => session.changeText changes
  | .selectionChanged anchor active kind =>
    (.ok (session.followSelection anchor active kind), session)
  | .viewStateChanged isVisible isActive =>
    let isRevealed := !session.isVisible && isVisible
    let session := { session with isVisible, isActive }
    if isRevealed then
      let (refresh, session) := session.refresh
      (.ok [.refresh refresh], session)
    else (.ok [], session)
  | .visibleRangeChanged firstLine => (.ok [.scroll firstLine], session)

/-- A session as it is shown to programmers. -/
def describe (session : Session Tree Query) : String :=
  s!"Session \x7b uri: {Text.quote session.uri}, grammar: {session.grammar.describe}, " ++
    s!"generation: {session.generation}, visible: {session.isVisible}, " ++
    s!"active: {session.isActive} \x7d"

end Session

end SyntaxExplorer
