import SyntaxExplorer.Proofs.Wire.Messages
import SyntaxExplorer.View.Formats

/-! What is exchanged with the view and the editor, and what is kept of a view: it is told apart by its
formats, which admit all of it whose numbers have the bits that their types have.
-/

namespace SyntaxExplorer

open Wire

-----------------------------------------------------------------------------------------
-- Exactness
-----------------------------------------------------------------------------------------

/-- Numbers are told apart. -/
theorem offsetFormat_isExact : offsetFormat.IsExact := fun _ => rfl

/-- Languages are told apart by their names. -/
theorem LanguageId.format_isExact : LanguageId.format.IsExact := fun _ => rfl

/-- Points are told apart by their rows and columns. -/
theorem Point.format_isExact : Point.format.IsExact := fun _ => rfl

/-- Changes are told apart by their spans and what they insert. -/
theorem TextChange.format_isExact : TextChange.format.IsExact := fun _ => rfl

/-- Nodes are told apart by all that is shown of them. -/
theorem FlatNode.format_isExact : FlatNode.format.IsExact := by
  intro node
  have parent := offsetFormat_isExact.optional node.parent
  simp only [FlatNode.format, Point.format_isExact node.start.point,
    Point.format_isExact node.stop.point, parent, bind, Option.bind, pure]

/-- Captures are told apart by their patterns, names, nodes and colors. -/
theorem Capture.format_isExact : Capture.format.IsExact := by
  intro capture
  simp only [Capture.format, FlatNode.format_isExact capture.node, bind, Option.bind, pure]

/-- Faults of queries are told apart by their messages and places. -/
theorem QueryFault.format_isExact : QueryFault.format.IsExact := fun _ => rfl

/-- Selections are told apart by their ends, either of which may be missing. -/
theorem TextSelection.format_isExact : TextSelection.format.IsExact := by
  intro selection
  have start := offsetFormat_isExact.optional selection.start
  have stop := offsetFormat_isExact.optional selection.stop
  simp only [TextSelection.format, start, stop, bind, Option.bind, pure]

/-- Kinds of selections are told apart by their names. -/
theorem SelectionKind.format_isExact : SelectionKind.format.IsExact := by
  rintro (_ | _ | _) <;> rfl

/-- States of views are told apart by all that is kept of them. -/
theorem ViewState.format_isExact : ViewState.format.IsExact := by
  intro state
  have nodes := FlatNode.format_isExact.list state.nodes
  simp only [ViewState.format, nodes, bind, Option.bind, pure]

/-- Refreshes are told apart by all that they show. -/
theorem Refresh.format_isExact : Refresh.format.IsExact := by
  intro refresh
  have nodes := FlatNode.format_isExact.list refresh.nodes
  simp only [Refresh.format, nodes, bind, Option.bind, pure]

/-- Requests of the view are told apart by their commands and values. -/
theorem ViewRequest.format_isExact : ViewRequest.format.IsExact := by
  rintro (_ | _ | selection | _ | _ | _)
  case selectEditorText => exact congrArg (Option.map _) (TextSelection.format_isExact selection)
  all_goals rfl

/-- Events of the editor are told apart by their names and fields. -/
theorem EditorEvent.format_isExact : EditorEvent.format.IsExact := by
  rintro (changes | ⟨anchor, active, kind⟩ | _ | _)
  case textChanged => exact congrArg (Option.map _) (TextChange.format_isExact.list changes)
  case selectionChanged => cases kind <;> rfl
  all_goals rfl

/-- Events of a view are told apart by their commands and data. -/
theorem ViewEvent.format_isExact : ViewEvent.format.IsExact := by
  rintro (refresh | captures | fault | _ | _ | _ | _ | _)
  case refresh => exact congrArg (Option.map _) (Refresh.format_isExact refresh)
  case queryDone => exact congrArg (Option.map _) (Capture.format_isExact.list captures)
  case queryError => exact congrArg (Option.map _) (QueryFault.format_isExact fault)
  all_goals rfl

-----------------------------------------------------------------------------------------
-- Ranges
-----------------------------------------------------------------------------------------

/-- Numbers have 64 bits. -/
@[simp] theorem offsetFormat_admits {number : Nat}
    : offsetFormat.schema.admits (.natural number) = true ↔ number < 2 ^ 64 :=
  decide_eq_true_iff

/-- Numbers that may be missing have 64 bits where they are there. -/
@[simp] theorem optionalOffset_admits {number : Option Nat}
    : (Schema.optional offsetFormat.schema).admits ((Format.optional offsetFormat).toValue number)
        = true
      ↔ ∀ actual ∈ number, actual < 2 ^ 64 := by
  cases number with
  | none => simp [Format.optional, Schema.admits]
  | some actual =>
      simp only [Option.mem_some_iff, forall_eq']
      exact offsetFormat_admits

/-- Any text is the id of a language. -/
theorem LanguageId.admits (language : LanguageId) : LanguageId.format.Admits language := rfl

/-- The numbers of a point have 64 bits. -/
@[mk_iff]
structure Point.IsSized (point : Point) : Prop where
  row : point.row < 2 ^ 64
  column : point.column < 2 ^ 64

/-- All sized points are admitted. -/
theorem Point.admits_iff {point : Point} : Point.format.Admits point ↔ point.IsSized := by
  simp [Format.Admits, Point.format, Fields.required, Schema.admits, Point.isSized_iff]

/-- The numbers of a change have 64 bits. -/
@[mk_iff]
structure TextChange.IsSized (change : TextChange) : Prop where
  start : change.start.IsSized
  stop : change.stop.IsSized
  offset : change.offset < 2 ^ 64
  length : change.length < 2 ^ 64

/-- All sized changes are admitted. -/
theorem TextChange.admits_iff {change : TextChange}
    : TextChange.format.Admits change ↔ change.IsSized := by
  rw [TextChange.isSized_iff, ← Point.admits_iff, ← Point.admits_iff]
  simp [Format.Admits, TextChange.format, Fields.required, Schema.admits]

/-- The numbers of a node have 64 bits, but for those of kinds with 16 bits and that of a field with
32 bits and a sign.
-/
@[mk_iff]
structure FlatNode.IsSized (node : FlatNode) : Prop where
  id : node.id < 2 ^ 64
  kindId : node.kindId < 2 ^ 16
  grammarId : node.grammarId < 2 ^ 16
  startPoint : node.start.point.IsSized
  stopPoint : node.stop.point.IsSized
  start : node.start.bytes < 2 ^ 64
  stop : node.stop.bytes < 2 ^ 64
  parent : ∀ parent ∈ node.parent, parent < 2 ^ 64
  childCount : node.childCount < 2 ^ 64
  namedChildCount : node.namedChildCount < 2 ^ 64
  descendantCount : node.descendantCount < 2 ^ 64
  level : node.level < 2 ^ 64
  fieldLower : -(2 ^ 31) ≤ node.fieldId
  fieldUpper : node.fieldId < 2 ^ 31

/-- All sized nodes are admitted. -/
theorem FlatNode.admits_iff {node : FlatNode}
    : FlatNode.format.Admits node ↔ node.IsSized := by
  rw [FlatNode.isSized_iff, ← Point.admits_iff, ← Point.admits_iff]
  simp only [Format.Admits, FlatNode.format, Fields.required, Fields.append,
    Fields.admits_required, Fields.admits_omissible, Fields.admits_nil, Schema.admits,
    offsetFormat_admits, optionalOffset_admits, kindBits, fieldBits, Bool.and_eq_true,
    decide_eq_true_eq, Bool.true_and, and_true]

/-- The numbers of a capture are those of its pattern and its node. -/
@[mk_iff]
structure Capture.IsSized (capture : Capture) : Prop where
  pattern : capture.pattern < 2 ^ 64
  node : capture.node.IsSized

/-- All sized captures are admitted. -/
theorem Capture.admits_iff {capture : Capture}
    : Capture.format.Admits capture ↔ capture.IsSized := by
  rw [Capture.isSized_iff, ← FlatNode.admits_iff]
  simp [Format.Admits, Capture.format, Fields.required, Schema.admits]

/-- The place of a fault has numbers of 64 bits. -/
@[mk_iff]
structure QueryFault.IsSized (fault : QueryFault) : Prop where
  index : fault.index < 2 ^ 64
  length : fault.length < 2 ^ 64

/-- All sized faults are admitted. -/
theorem QueryFault.admits_iff {fault : QueryFault}
    : QueryFault.format.Admits fault ↔ fault.IsSized := by
  simp [Format.Admits, QueryFault.format, Fields.required, Schema.admits, QueryFault.isSized_iff]

/-- The ends of a selection have 64 bits where they are there. -/
@[mk_iff]
structure TextSelection.IsSized (selection : TextSelection) : Prop where
  start : ∀ start ∈ selection.start, start < 2 ^ 64
  stop : ∀ stop ∈ selection.stop, stop < 2 ^ 64

/-- All sized selections are admitted. -/
theorem TextSelection.admits_iff {selection : TextSelection}
    : TextSelection.format.Admits selection ↔ selection.IsSized := by
  simp [Format.Admits, TextSelection.format, Fields.ofList, Schema.admits,
    TextSelection.isSized_iff]

/-- All kinds of selections are admitted. -/
theorem SelectionKind.admits (kind : SelectionKind) : SelectionKind.format.Admits kind := by
  cases kind <;> decide

/-- The numbers of a state are those of its nodes. -/
def ViewState.IsSized (state : ViewState) : Prop := ∀ node ∈ state.nodes, node.IsSized

/-- All sized states are admitted. -/
theorem ViewState.admits_iff {state : ViewState}
    : ViewState.format.Admits state ↔ state.IsSized := by
  simp only [ViewState.IsSized, ← FlatNode.admits_iff]
  simp [Format.Admits, ViewState.format, Fields.ofList, Schema.admits]

/-- The numbers of a refresh are those of its nodes. -/
def Refresh.IsSized (refresh : Refresh) : Prop := ∀ node ∈ refresh.nodes, node.IsSized

/-- All sized refreshes are admitted. -/
theorem Refresh.admits_iff {refresh : Refresh}
    : Refresh.format.Admits refresh ↔ refresh.IsSized := by
  simp only [Refresh.IsSized, ← FlatNode.admits_iff]
  simp [Format.Admits, Refresh.format, Fields.required, Schema.admits]

/-- The numbers of a request are those of the selection that it may hold. -/
def ViewRequest.IsSized : ViewRequest → Prop
  | .selectEditorText selection => selection.IsSized
  | .showAnonymousNodes _ | .enableNodeMapping _ | .enableQuery _ | .queryNode _ | .logOutput _ =>
      True

/-- All sized requests are admitted. -/
theorem ViewRequest.admits_iff {request : ViewRequest}
    : ViewRequest.format.Admits request ↔ request.IsSized := by
  cases request with
  | selectEditorText => exact TextSelection.admits_iff
  | _ => exact iff_of_true rfl trivial

/-- The numbers of an event of the editor are those of its changes, points and lines. -/
def EditorEvent.IsSized : EditorEvent → Prop
  | .textChanged changes => ∀ change ∈ changes, change.IsSized
  | .selectionChanged anchor active _ => anchor.IsSized ∧ active.IsSized
  | .viewStateChanged _ _ => True
  | .visibleRangeChanged firstLine => firstLine < 2 ^ 64

/-- All sized events of the editor are admitted. -/
theorem EditorEvent.admits_iff {event : EditorEvent}
    : EditorEvent.format.Admits event ↔ event.IsSized := by
  cases event with
  | textChanged changes =>
      change (Fields.required [("changes", .list TextChange.format.schema)]).admits
        [(Format.list TextChange.format).toValue changes] = true ↔ _
      simp [Fields.required, TextChange.admits_iff, IsSized]
  | selectionChanged anchor active kind =>
      change (Fields.required [
          ("anchor", Point.format.schema), ("active", Point.format.schema),
          ("kind", SelectionKind.format.schema)]).admits
        [Point.format.toValue anchor, Point.format.toValue active,
          SelectionKind.format.toValue kind] = true ↔ _
      have known := kind.admits
      rw [IsSized, ← Point.admits_iff, ← Point.admits_iff]
      rw [Format.Admits] at known
      simp [Fields.required, known, Format.Admits]
  | viewStateChanged => exact iff_of_true rfl trivial
  | visibleRangeChanged firstLine =>
      change (Fields.required [("firstLine", offsetFormat.schema)]).admits [.natural firstLine]
        = true ↔ _
      simp [Fields.required, IsSized]

/-- The numbers of an event of a view are those of what it shows or names. -/
def ViewEvent.IsSized : ViewEvent → Prop
  | .refresh shown => shown.IsSized
  | .queryDone captures => ∀ capture ∈ captures, capture.IsSized
  | .queryError fault => fault.IsSized
  | .gotoNode id => id < 2 ^ 64
  | .scroll line => line < 2 ^ 64
  | .selectRange start stop => start < 2 ^ 64 ∧ stop < 2 ^ 64
  | .clearSelection | .clearDecorations => True

/-- All sized events of a view are admitted. -/
theorem ViewEvent.admits_iff {event : ViewEvent}
    : ViewEvent.format.Admits event ↔ event.IsSized := by
  have single (name : String) (number : Nat)
      : (Fields.required [(name, offsetFormat.schema)]).admits [.natural number] = true
        ↔ number < 2 ^ 64 := by
    simp [Fields.required]
  cases event with
  | refresh shown => exact Refresh.admits_iff
  | queryDone captures =>
      refine Format.list_admits.trans ?_
      simp only [Capture.admits_iff, IsSized]
  | queryError fault => exact QueryFault.admits_iff
  | gotoNode id => exact single "nodeId" id
  | scroll line => exact single "targetLine" line
  | selectRange start stop =>
      change (Fields.required [
          ("startIndex", offsetFormat.schema), ("endIndex", offsetFormat.schema)]).admits
        [.natural start, .natural stop] = true ↔ _
      simp [Fields.required, IsSized]
  | clearSelection | clearDecorations => exact iff_of_true rfl trivial

end SyntaxExplorer
