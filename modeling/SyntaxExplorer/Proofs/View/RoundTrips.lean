import SyntaxExplorer.Proofs.Store.Restoration

/-! Encoding and decoding are inverse: whatever is exchanged or kept is read back as it was from what
is written of it.
-/

namespace SyntaxExplorer

open Wire

/-- The texts of a node have lengths of 32 bits, as MessagePack writes them. -/
structure FlatNode.IsShort (node : FlatNode) : Prop where
  kind : (Text.bytes node.kind).length < 2 ^ 32
  grammarKind : (Text.bytes node.grammarKind).length < 2 ^ 32
  text : (Text.bytes node.text).length < 2 ^ 32
  fieldName : (Text.bytes node.fieldName).length < 2 ^ 32

/-- The texts and the list of nodes of a state have lengths of 32 bits. -/
structure ViewState.IsShort (state : ViewState) : Prop where
  document : (Text.bytes state.document).length < 2 ^ 32
  queryText : (Text.bytes state.queryText).length < 2 ^ 32
  nodes : state.nodes.length < 2 ^ 32
  each : ∀ node ∈ state.nodes, node.IsShort

/-- A sized node with short texts fits its format. -/
theorem FlatNode.fits_of_isShort {node : FlatNode} (sized : node.IsSized) (short : node.IsShort)
    : FlatNode.format.Fits node := by
  have startPoint : Point.format.schema.fits (Point.format.toValue node.start.point) = true :=
    Point.admits_iff.mpr sized.startPoint
  have stopPoint : Point.format.schema.fits (Point.format.toValue node.stop.point) = true :=
    Point.admits_iff.mpr sized.stopPoint
  have parent
      : (Schema.optional offsetFormat.schema).fits
          ((Format.optional offsetFormat).toValue node.parent) = true := by
    have admits := optionalOffset_admits.mpr sized.parent
    cases found : node.parent with
    | none => rfl
    | some parent => rwa [found] at admits
  have offset {number : Nat} (bound : number < 2 ^ 64)
      : offsetFormat.schema.fits (.natural number) = true :=
    decide_eq_true bound
  simp only [Format.Fits, FlatNode.format, Fields.required, Fields.append, Fields.fits_required,
    Fields.fits_omissible, startPoint, stopPoint, parent, Schema.fits, Bool.and_eq_true,
    decide_eq_true_eq, true_and]
  exact ⟨offset sized.id, sized.kindId, sized.grammarId, short.kind, short.grammarKind, short.text,
    offset sized.start, offset sized.stop, offset sized.childCount, offset sized.namedChildCount,
    offset sized.descendantCount, offset sized.level, ⟨sized.fieldLower, sized.fieldUpper⟩,
    short.fieldName, rfl⟩

/-- A sized state with short texts fits its format. -/
theorem ViewState.fits_of_isShort {state : ViewState} (sized : state.IsSized)
    (short : state.IsShort)
    : ViewState.format.Fits state := by
  have nodes (node : FlatNode) (member : node ∈ state.nodes) : FlatNode.format.Fits node :=
    FlatNode.fits_of_isShort (sized node member) (short.each node member)
  exact ViewState.fits_iff.mpr ⟨short.document, ⟨short.nodes, nodes⟩, short.queryText⟩

/-- All that is exchanged as JSON is parsed from its text, and a saved state is also read from the bytes
of its file.  Only those bytes limit the lengths of texts and lists: the limit of 32 bits is that of
MessagePack, which has no longer ones.
-/
theorem formats_restore
    : (∀ state : ViewState,
        state.IsSized → ViewState.format.parse (ViewState.format.render state) = .ok state)
      ∧ (∀ (store : SessionStore) (state : ViewState) (file : String),
          state.IsSized
          → state.IsShort
          → (store.save state).1 = .ok file
          → ∃ bytes,
              (store.save state).2.read file = .ok bytes
              ∧ ViewState.format.unpack? bytes = some state)
      ∧ (∀ node : FlatNode,
          node.IsSized → FlatNode.format.parse (FlatNode.format.render node) = .ok node)
      ∧ (∀ change : TextChange,
          change.IsSized → TextChange.format.parse (TextChange.format.render change) = .ok change)
      ∧ (∀ capture : Capture,
          capture.IsSized → Capture.format.parse (Capture.format.render capture) = .ok capture)
      ∧ (∀ fault : QueryFault,
          fault.IsSized → QueryFault.format.parse (QueryFault.format.render fault) = .ok fault)
      ∧ (∀ selection : TextSelection,
          selection.IsSized
          → TextSelection.format.parse (TextSelection.format.render selection) = .ok selection)
      ∧ (∀ refresh : Refresh,
          refresh.IsSized → Refresh.format.parse (Refresh.format.render refresh) = .ok refresh)
      ∧ (∀ language : LanguageId,
          LanguageId.format.parse (LanguageId.format.render language) = .ok language)
      ∧ (∀ request : ViewRequest,
          request.IsSized
          → ViewRequest.format.parse (ViewRequest.format.render request) = .ok request)
      ∧ (∀ event : EditorEvent,
          event.IsSized → EditorEvent.format.parse (EditorEvent.format.render event) = .ok event)
      ∧ ∀ event : ViewEvent,
          event.IsSized → ViewEvent.format.parse (ViewEvent.format.render event) = .ok event := by
  refine ⟨fun state sized => ?_, fun store state file sized short saved => ?_,
    fun node sized => ?_, fun change sized => ?_, fun capture sized => ?_, fun fault sized => ?_,
    fun selection sized => ?_, fun refresh sized => ?_, fun language => ?_,
    fun request sized => ?_, fun event sized => ?_, fun event sized => ?_⟩
  · exact Format.parse_render ViewState.format_isExact (by decide) (ViewState.admits_iff.mpr sized)
  · exact ⟨_, SessionStore.read_of_save saved,
      ViewState.unpack?_pack (ViewState.fits_of_isShort sized short)⟩
  · exact Format.parse_render FlatNode.format_isExact (by decide) (FlatNode.admits_iff.mpr sized)
  · exact Format.parse_render TextChange.format_isExact (by decide)
      (TextChange.admits_iff.mpr sized)
  · exact Format.parse_render Capture.format_isExact (by decide) (Capture.admits_iff.mpr sized)
  · exact Format.parse_render QueryFault.format_isExact (by decide)
      (QueryFault.admits_iff.mpr sized)
  · exact Format.parse_render TextSelection.format_isExact (by decide)
      (TextSelection.admits_iff.mpr sized)
  · exact Format.parse_render Refresh.format_isExact (by decide) (Refresh.admits_iff.mpr sized)
  · exact Format.parse_render LanguageId.format_isExact (by decide) language.admits
  · exact EnvelopeFormat.parse_render ViewRequest.format_isExact (by decide)
      (ViewRequest.admits_iff.mpr sized)
  · exact InlineFormat.parse_render EditorEvent.format_isExact (by decide)
      (EditorEvent.admits_iff.mpr sized)
  · exact EnvelopeFormat.parse_render ViewEvent.format_isExact (by decide)
      (ViewEvent.admits_iff.mpr sized)

/-- A node with the greatest numbers there are, the least number of a field, and a text that has to be
escaped.
-/
def extremeNode : FlatNode where
  id := 2 ^ 64 - 1
  kindId := 2 ^ 16 - 1
  grammarId := 2 ^ 16 - 1
  kind := "\"\\\n\x01\x7f"
  text := "é中😀"
  start := ⟨2 ^ 64 - 1, ⟨2 ^ 64 - 1, 2 ^ 64 - 1⟩⟩
  stop := ⟨2 ^ 64 - 1, ⟨2 ^ 64 - 1, 2 ^ 64 - 1⟩⟩
  parent := some (2 ^ 64 - 1)
  childCount := 2 ^ 64 - 1
  namedChildCount := 2 ^ 64 - 1
  descendantCount := 2 ^ 64 - 1
  level := 2 ^ 64 - 1
  fieldId := -(2 ^ 31)

/-- A state of that node and of one without a parent. -/
def extremeState : ViewState where
  document := "file:///a.js"
  nodes := [extremeNode, { extremeNode with parent := none, fieldId := 2 ^ 31 - 1 }]
  queryText := "(identifier) @id"

/-- The extreme state is restored from its text and from a new store, and so is what is told of its
first node.
-/
theorem formats_restore_extremes
    : ViewState.format.parse (ViewState.format.render extremeState) = .ok extremeState
      ∧ (∃ bytes,
          (SessionStore.save .missing extremeState).2.read
              (SessionStore.fileOf extremeState.document) = .ok bytes
          ∧ ViewState.format.unpack? bytes = some extremeState)
      ∧ ViewEvent.format.parse (ViewEvent.format.render
          (.queryDone [⟨2 ^ 64 - 1, "id", extremeNode, "#000000"⟩]))
        = .ok (.queryDone [⟨2 ^ 64 - 1, "id", extremeNode, "#000000"⟩]) := by
  obtain ⟨states, saved, _, _, _, _, _, _, _, _, _, events⟩ := formats_restore
  have accepts : ¬ SessionStore.Refuses .missing extremeState.document := by
    rintro (blocked | folder)
    · cases blocked
    · cases folder
  have sized : extremeState.IsSized := ViewState.admits_iff.mp (by decide)
  have short : extremeState.IsShort := by
    refine ⟨by decide, by decide, by decide, ?_⟩
    rintro node (_ | ⟨_, _ | ⟨_, ⟨⟩⟩⟩)
    all_goals exact ⟨by decide, by decide, by decide, by decide⟩
  have told : (ViewEvent.queryDone [⟨2 ^ 64 - 1, "id", extremeNode, "#000000"⟩]).IsSized :=
    ViewEvent.admits_iff.mp (by decide)
  refine ⟨states extremeState sized, saved .missing extremeState _ sized short ?_, events _ told⟩
  rw [SessionStore.save_of_not_refuses accepts]

end SyntaxExplorer
