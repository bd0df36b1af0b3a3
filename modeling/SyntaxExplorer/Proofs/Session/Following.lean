import SyntaxExplorer.Proofs.Session.Publication
import SyntaxExplorer.Proofs.Tree.SpanningNodes

/-! Selections in the editor that a view follows.  A session goes to the smallest node of its tree
that spans a selection, named or not, while its view lists anonymous nodes only if they were asked
for.
-/

namespace SyntaxExplorer

variable {Tree Query : Type}

namespace Session

variable {session : Session Tree Query}

/-- The node at a selection is the smallest one of the tree that spans the part of the text between the
offsets that are selected.
-/
theorem isSmallest_of_nodeAt? {anchor active : Point} {node : Node}
    (found : session.nodeAt? anchor active = some node)
    : let lines := LineIndex.ofText session.text
      ∃ start stop,
        Selection.span? session.text lines anchor active = some (start, stop)
        ∧ session.root.IsSmallestSpanning (lines.positionAt start) (lines.positionAt stop) node := by
  simp only [nodeAt?, Option.bind_eq_bind, Option.bind_eq_some_iff] at found
  obtain ⟨⟨start, stop⟩, spanned, smallest⟩ := found
  exact ⟨start, stop, spanned, Node.isSmallest_of_smallestSpanning? smallest⟩

/-- The nodes of the tree of a session have numbers of their own. -/
theorem root_distinct (session : Session Tree Query) : (session.root.nodes.map Node.id).Nodup :=
  Node.enumerate_distinct 0 _

-----------------------------------------------------------------------------------------
-- Going to a node
-----------------------------------------------------------------------------------------

/-- Running the query goes to no node. -/
theorem gotoNode_notMem_runQuery (session : Session Tree Query) (id : NodeId)
    : .gotoNode id ∉ session.runQuery.1 := by
  intro told
  rcases runQuery_tells told with same | ⟨_, same⟩ | ⟨_, same⟩ <;> cases same

/-- No request of the view makes a session go to a node. -/
theorem gotoNode_notMem_handleRequest (session : Session Tree Query) (request : ViewRequest)
    (id : NodeId)
    : .gotoNode id ∉ (session.handleRequest request).1 := by
  cases request with
  | showAnonymousNodes | enableNodeMapping | logOutput => simp [handleRequest]
  | selectEditorText selection =>
      simp only [handleRequest, selectText]
      split
      · split <;> simp
      · simp
  | enableQuery | queryNode => exact gotoNode_notMem_runQuery _ id

/-- A change of the text makes it go to no node either. -/
theorem gotoNode_notMem_changeText {changes : List TextChange} {events : List ViewEvent}
    (answered : (session.changeText changes).1 = .ok events) (id : NodeId)
    : .gotoNode id ∉ events := by
  have outcome := session.changeText_outcome changes
  generalize session.changeText changes = result at outcome answered
  obtain ⟨answer, next⟩ := result
  cases outcome with
  | empty =>
      cases answered
      exact List.not_mem_nil
  | rejected => cases answered
  | accepted =>
      cases answered
      intro told
      rcases List.mem_cons.mp told with same | later
      · cases same
      · rcases requery_tells later with same | ⟨_, same⟩ | ⟨_, same⟩ <;> cases same

/-- A session goes to a node only to follow a selection in the editor: to the node there. -/
theorem selected_of_gotoNode {call : Call} {events : List ViewEvent} {id : NodeId}
    (answered : (session.handle call).1 = .ok events) (told : .gotoNode id ∈ events)
    : ∃ anchor active kind node,
        call = .event (.selectionChanged anchor active kind)
        ∧ session.nodeAt? anchor active = some node
        ∧ node.id = id := by
  cases call with
  | request request =>
      cases answered
      exact (session.gotoNode_notMem_handleRequest request id told).elim
  | event event =>
      cases event with
      | textChanged changes => exact (gotoNode_notMem_changeText answered id told).elim
      | selectionChanged anchor active kind =>
          cases answered
          refine ⟨anchor, active, kind, ?_⟩
          rcases List.mem_append.mp told with cleared | followed
          · split at cleared
            · cases List.mem_singleton.mp cleared
            · cases cleared
          · split at followed
            · obtain ⟨node, there, same⟩ := List.mem_map.mp followed
              cases same
              exact ⟨node, rfl, Option.mem_toList.mp there, rfl⟩
            · cases followed
      | viewStateChanged isVisible isActive =>
          simp only [handle, handleEvent] at answered
          split at answered
          · cases answered
            cases List.mem_singleton.mp told
          · cases answered
            cases told
      | visibleRangeChanged firstLine =>
          cases answered
          cases List.mem_singleton.mp told

/-- Whatever requests and events a session has handled, the view has the list of its nodes from the
latest refresh; and when it then goes to a node, it follows a selection in the editor to the smallest
node of its tree that spans the part of the text that is selected.  The list has that node exactly if
it is a named one or the view was asked to show the anonymous ones too.
-/
theorem after_goesToListed {text : String} {grammar : LoadedGrammar Tree Query} {matchLimit : Nat}
    {session : Session Tree Query} (started : Started text grammar matchLimit session)
    (calls : List Call)
    {call : Call} {events : List ViewEvent} {id : NodeId}
    (answered : ((session.after calls).handle call).1 = .ok events)
    (told : .gotoNode id ∈ events)
    : let last := session.after calls
      let lines := LineIndex.ofText last.text
      (∃ refresh,
        last.publisher.latest = ⟨last.generation, some refresh⟩
        ∧ refresh.nodes = last.state.nodes)
      ∧ ∃ anchor active kind start stop node,
          call = .event (.selectionChanged anchor active kind)
          ∧ Selection.span? last.text lines anchor active = some (start, stop)
          ∧ last.nodeAt? anchor active = some node
          ∧ last.root.IsSmallestSpanning (lines.positionAt start) (lines.positionAt stop) node
          ∧ node.id = id
          ∧ ((∃ entry ∈ last.state.nodes, entry.id = id)
            ↔ last.state.anonymousShown = true ∨ node.facts.isNamed = true) := by
  intro last lines
  have shows : last.Shows :=
    after_preserves Shows (fun _ call shows => (shows.handle call).1) started.shows calls
  obtain ⟨refresh, latest, nodes, -⟩ := shows.published
  obtain ⟨anchor, active, kind, node, selected, found, rfl⟩ := selected_of_gotoNode answered told
  obtain ⟨start, stop, spanned, smallest⟩ := isSmallest_of_nodeAt? found
  refine ⟨⟨refresh, latest, nodes⟩, anchor, active, kind, start, stop, node, selected, spanned,
    found, smallest, rfl, ?_⟩
  rw [shows.listed]
  exact FlatTree.exists_listed_iff last.root_distinct smallest.member

/-- What an answer has is told by its events alone. -/
theorem eq_ok_of_toOption {answer : Answer} {events : List ViewEvent}
    (some : answer.toOption = .some events)
    : answer = .ok events := by
  cases answer with
  | error => cases some
  | ok told => rw [Option.some.inj some]

/-- The view goes to the second of two comments, which it lists. -/
theorem after_goesToListed_commentLines
    : Started "//a" CommentLines.grammar 64 CommentLines.session
      ∧ let last := CommentLines.session.after
          [.event (.textChanged [.ofSpan "//a" 3 0 "\n//b"]),
            .event (.viewStateChanged true false)]
        (last.handle (.event (.selectionChanged ⟨1, 2⟩ ⟨1, 2⟩ .mouse))).1
            = .ok [.clearSelection, .gotoNode 2]
        ∧ ∃ entry ∈ last.state.nodes, entry.id = 2 := by
  refine ⟨CommentLines.started, ?_⟩
  intro last
  have answered : (last.handle (.event (.selectionChanged ⟨1, 2⟩ ⟨1, 2⟩ .mouse))).1
      = .ok [.clearSelection, .gotoNode 2] :=
    eq_ok_of_toOption (by decide +kernel)
  have told : ViewEvent.gotoNode 2 ∈ [.clearSelection, .gotoNode 2] :=
    List.mem_cons_of_mem _ List.mem_cons_self
  obtain ⟨-, _, _, _, _, _, node, selected, -, found, -, -, listed⟩ :=
    after_goesToListed CommentLines.started _ answered told
  cases selected
  have named : (last.nodeAt? ⟨1, 2⟩ ⟨1, 2⟩).map (·.facts.isNamed) = some true := by decide +kernel
  rw [found] at named
  exact ⟨answered, listed.mpr (.inr (Option.some.inj named))⟩

/-- A program of one keyword, which is an anonymous node. -/
def keywordProgram (text : String) : Node :=
  let stop : Extent := .ofChars text.toList
  let keyword := (CommentLines.node 14 text false .zero stop []).facts
  CommentLines.node 134 "program" false .zero stop [.mk { keyword with isNamed := false } []]

/-- The session of a document that is such a program. -/
def keywordSession : Session String Unit :=
  let engine := { CommentLines.engine with shown := keywordProgram }
  (unshown { document := "file:///a.js" } "let"
    ⟨⟨"javascript"⟩, "tree-sitter-javascript", .builtin, ⟨15, engine⟩⟩ 64).refresh.2

/-- A caret in the keyword makes the session go to it, though the view lists the program only. -/
theorem gotoNode_misses_anonymous
    : Started "let" keywordSession.grammar 64 keywordSession
      ∧ let last := keywordSession.after [.event (.viewStateChanged true false)]
        (last.handle (.event (.selectionChanged ⟨0, 1⟩ ⟨0, 1⟩ .keyboard))).1 = .ok [.gotoNode 1]
        ∧ last.state.nodes.map (fun entry => (entry.id, entry.kind)) = [(0, "program")]
        ∧ ∀ entry ∈ last.state.nodes, entry.id ≠ 1 := by
  refine ⟨.opened "file:///a.js" rfl, eq_ok_of_toOption ?_, ?_, ?_⟩
  · decide +kernel
  · decide +kernel
  · decide +kernel

end Session

end SyntaxExplorer
