import SyntaxExplorer.Registry.Naming
import SyntaxExplorer.View.Message
import SyntaxExplorer.Wire.Format
/-!
The formats of what is exchanged with the view and the editor, and of what is kept of a view.
-/

namespace SyntaxExplorer

open Wire

/-- Offsets, lengths and numbers of nodes have so many bits. -/
def offsetBits : Nat := 64

def offsetFormat : Format Nat := .natural offsetBits

namespace LanguageId

/-- An id stands as its name alone. -/
def format : Format LanguageId where
  schema := Format.text.schema
  toValue language := Format.text.toValue language.name
  ofValue? value := (Format.text.ofValue? value).map .mk

end LanguageId

namespace Point

def format : Format Point where
  schema := .record (.required [("row", offsetFormat.schema), ("column", offsetFormat.schema)])
  toValue point := .record [.natural point.row, .natural point.column]
  ofValue?
    | .record [.natural row, .natural column] => some ⟨row, column⟩
    | _ => none

end Point

namespace TextChange

def format : Format TextChange where
  schema := .record (.required [
    ("rangeStart", Point.format.schema), ("rangeEnd", Point.format.schema),
    ("rangeOffset", offsetFormat.schema), ("rangeLength", offsetFormat.schema),
    ("insertedText", .text)])
  toValue change := .record [
    Point.format.toValue change.start, Point.format.toValue change.stop,
    .natural change.offset, .natural change.length, .text change.inserted]
  ofValue?
    | .record [start, stop, .natural offset, .natural length, .text inserted] => do
      return ⟨← Point.format.ofValue? start, ← Point.format.ofValue? stop, offset, length, inserted⟩
    | _ => none

end TextChange

namespace FlatNode

/-- Numbers of kinds have so many bits. -/
def kindBits : Nat := 16

/-- Numbers of fields have so many bits, with a sign. -/
def fieldBits : Nat := 32

def format : Format FlatNode where
  schema := .record (.append (.required [
    ("id", offsetFormat.schema), ("typeId", .natural kindBits), ("grammarId", .natural kindBits),
    ("type", .text), ("grammarType", .text), ("isNamed", .boolean), ("isMissing", .boolean),
    ("isExtra", .boolean), ("hasChanges", .boolean), ("hasError", .boolean), ("isError", .boolean),
    ("text", .text), ("startPosition", Point.format.schema), ("endPosition", Point.format.schema),
    ("startIndex", offsetFormat.schema), ("endIndex", offsetFormat.schema)])
    (.cons "parentId" .omissible (.optional offsetFormat.schema) (.required [
    ("childCount", offsetFormat.schema), ("namedChildCount", offsetFormat.schema),
    ("descendantCount", offsetFormat.schema), ("level", offsetFormat.schema),
    ("fieldId", .integer fieldBits), ("fieldName", .text)])))
  toValue node := .record [
    .natural node.id, .natural node.kindId, .natural node.grammarId, .text node.kind,
    .text node.grammarKind, .boolean node.isNamed, .boolean node.isMissing, .boolean node.isExtra,
    .boolean node.hasChanges, .boolean node.hasError, .boolean node.isError, .text node.text,
    Point.format.toValue node.start.point, Point.format.toValue node.stop.point,
    .natural node.start.bytes, .natural node.stop.bytes,
    (Format.optional offsetFormat).toValue node.parent, .natural node.childCount,
    .natural node.namedChildCount, .natural node.descendantCount, .natural node.level,
    .integer node.fieldId, .text node.fieldName]
  ofValue?
    | .record [.natural id, .natural kindId, .natural grammarId, .text kind, .text grammarKind,
        .boolean isNamed, .boolean isMissing, .boolean isExtra, .boolean hasChanges,
        .boolean hasError, .boolean isError, .text text, startPoint, stopPoint, .natural start,
        .natural stop, parent, .natural childCount, .natural namedChildCount,
        .natural descendantCount, .natural level, .integer fieldId, .text fieldName] => do
      let startPoint ← Point.format.ofValue? startPoint
      let stopPoint ← Point.format.ofValue? stopPoint
      let parent ← (Format.optional offsetFormat).ofValue? parent
      return { id, kindId, grammarId, kind, grammarKind, isNamed, isMissing, isExtra, hasChanges,
               hasError, isError, text, start := ⟨start, startPoint⟩, stop := ⟨stop, stopPoint⟩,
               parent, childCount, namedChildCount, descendantCount, level, fieldId, fieldName }
    | _ => none

end FlatNode

namespace Capture

def format : Format Capture where
  schema := .record (.required [
    ("pattern", offsetFormat.schema), ("name", .text), ("node", FlatNode.format.schema),
    ("color", .text)])
  toValue capture := .record [
    .natural capture.pattern, .text capture.name, FlatNode.format.toValue capture.node,
    .text capture.color]
  ofValue?
    | .record [.natural pattern, .text name, node, .text color] => do
      return ⟨pattern, name, ← FlatNode.format.ofValue? node, color⟩
    | _ => none

end Capture

namespace QueryFault

def format : Format QueryFault where
  schema := .record (.required [
    ("message", .text), ("index", offsetFormat.schema), ("length", offsetFormat.schema)])
  toValue fault := .record [.text fault.message, .natural fault.index, .natural fault.length]
  ofValue?
    | .record [.text message, .natural index, .natural length] => some ⟨message, index, length⟩
    | _ => none

end QueryFault

namespace TextSelection

def format : Format TextSelection where
  schema := .record (.ofList [
    ("startIndex", .defaulted .absent, .optional offsetFormat.schema),
    ("endIndex", .defaulted .absent, .optional offsetFormat.schema),
    ("isClick", .defaulted (.boolean false), .boolean)])
  toValue selection := .record [
    (Format.optional offsetFormat).toValue selection.start,
    (Format.optional offsetFormat).toValue selection.stop, .boolean selection.isClick]
  ofValue?
    | .record [start, stop, .boolean isClick] => do
      let start ← (Format.optional offsetFormat).ofValue? start
      let stop ← (Format.optional offsetFormat).ofValue? stop
      return ⟨start, stop, isClick⟩
    | _ => none

end TextSelection

namespace SelectionKind

def format : Format SelectionKind where
  schema := .choice ["keyboard", "mouse", "command"]
  toValue
    | .keyboard => .choice "keyboard"
    | .mouse => .choice "mouse"
    | .command => .choice "command"
  ofValue?
    | .choice "keyboard" => some .keyboard
    | .choice "mouse" => some .mouse
    | .choice "command" => some .command
    | _ => none

end SelectionKind

namespace ViewState

def format : Format ViewState where
  schema := .record (.ofList [
    ("docUri", .required, .text),
    ("nodes", .defaulted (.list []), .list FlatNode.format.schema),
    ("enableQuery", .defaulted (.boolean false), .boolean),
    ("queryText", .defaulted (.text ""), .text),
    ("showAnonymousNodes", .defaulted (.boolean false), .boolean),
    ("enableNodeMapping", .defaulted (.boolean false), .boolean),
    ("logOutput", .defaulted (.boolean false), .boolean)])
  toValue state := .record [
    .text state.document, (Format.list FlatNode.format).toValue state.nodes,
    .boolean state.queryEnabled, .text state.queryText, .boolean state.anonymousShown,
    .boolean state.mappingEnabled, .boolean state.logEnabled]
  ofValue?
    | .record [.text document, nodes, .boolean queryEnabled, .text queryText,
        .boolean anonymousShown, .boolean mappingEnabled, .boolean logEnabled] => do
      return ⟨document, ← (Format.list FlatNode.format).ofValue? nodes, queryEnabled, queryText,
        anonymousShown, mappingEnabled, logEnabled⟩
    | _ => none

end ViewState

namespace Refresh

def format : Format Refresh where
  schema := .record (.required [
    ("docId", .text), ("nodes", .list FlatNode.format.schema), ("showAnonymousNodes", .boolean),
    ("enableQuery", .boolean), ("queryText", .text), ("enableNodeMapping", .boolean),
    ("logOutput", .boolean)])
  toValue refresh := .record [
    .text refresh.document, (Format.list FlatNode.format).toValue refresh.nodes,
    .boolean refresh.anonymousShown, .boolean refresh.queryEnabled, .text refresh.queryText,
    .boolean refresh.mappingEnabled, .boolean refresh.logEnabled]
  ofValue?
    | .record [.text document, nodes, .boolean anonymousShown, .boolean queryEnabled,
        .text queryText, .boolean mappingEnabled, .boolean logEnabled] => do
      return ⟨document, ← (Format.list FlatNode.format).ofValue? nodes, anonymousShown,
        queryEnabled, queryText, mappingEnabled, logEnabled⟩
    | _ => none

end Refresh

namespace ViewRequest

def format : EnvelopeFormat ViewRequest where
  messages := {
    tag := "command"
    content := "value"
    bodies := [
      ("showAnonymousNodes", .single .boolean), ("enableNodeMapping", .single .boolean),
      ("selectEditorText", .single TextSelection.format.schema),
      ("enableQuery", .single .boolean), ("queryNode", .single .text),
      ("logOutput", .single .boolean)] }
  toTagged
    | .showAnonymousNodes value => ⟨"showAnonymousNodes", .boolean value⟩
    | .enableNodeMapping value => ⟨"enableNodeMapping", .boolean value⟩
    | .selectEditorText selection => ⟨"selectEditorText", TextSelection.format.toValue selection⟩
    | .enableQuery value => ⟨"enableQuery", .boolean value⟩
    | .queryNode text => ⟨"queryNode", .text text⟩
    | .logOutput value => ⟨"logOutput", .boolean value⟩
  ofTagged?
    | ⟨"showAnonymousNodes", .boolean value⟩ => some (.showAnonymousNodes value)
    | ⟨"enableNodeMapping", .boolean value⟩ => some (.enableNodeMapping value)
    | ⟨"selectEditorText", value⟩ =>
      (TextSelection.format.ofValue? value).map .selectEditorText
    | ⟨"enableQuery", .boolean value⟩ => some (.enableQuery value)
    | ⟨"queryNode", .text text⟩ => some (.queryNode text)
    | ⟨"logOutput", .boolean value⟩ => some (.logOutput value)
    | _ => none

end ViewRequest

namespace EditorEvent

def format : InlineFormat EditorEvent where
  messages := {
    tag := "event"
    bodies := [
      ("textChanged", .required [("changes", .list TextChange.format.schema)]),
      ("selectionChanged", .required [
        ("anchor", Point.format.schema), ("active", Point.format.schema),
        ("kind", SelectionKind.format.schema)]),
      ("viewStateChanged", .required [("visible", .boolean), ("active", .boolean)]),
      ("visibleRangeChanged", .required [("firstLine", offsetFormat.schema)])] }
  toTagged
    | .textChanged changes =>
      ⟨"textChanged", .record [(Format.list TextChange.format).toValue changes]⟩
    | .selectionChanged anchor active kind =>
      ⟨"selectionChanged", .record [
        Point.format.toValue anchor, Point.format.toValue active, SelectionKind.format.toValue kind]⟩
    | .viewStateChanged visible active =>
      ⟨"viewStateChanged", .record [.boolean visible, .boolean active]⟩
    | .visibleRangeChanged firstLine => ⟨"visibleRangeChanged", .record [.natural firstLine]⟩
  ofTagged?
    | ⟨"textChanged", .record [changes]⟩ =>
      ((Format.list TextChange.format).ofValue? changes).map .textChanged
    | ⟨"selectionChanged", .record [anchor, active, kind]⟩ => do
      return .selectionChanged (← Point.format.ofValue? anchor) (← Point.format.ofValue? active)
        (← SelectionKind.format.ofValue? kind)
    | ⟨"viewStateChanged", .record [.boolean visible, .boolean active]⟩ =>
      some (.viewStateChanged visible active)
    | ⟨"visibleRangeChanged", .record [.natural firstLine]⟩ =>
      some (.visibleRangeChanged firstLine)
    | _ => none

end EditorEvent

namespace ViewEvent

def format : EnvelopeFormat ViewEvent where
  messages := {
    tag := "command"
    content := "data"
    bodies := [
      ("refresh", .single Refresh.format.schema),
      ("queryDone", .single (.list Capture.format.schema)),
      ("queryError", .single QueryFault.format.schema),
      ("gotoNode", .single (.record (.required [("nodeId", offsetFormat.schema)]))),
      ("scroll", .single (.record (.required [("targetLine", offsetFormat.schema)]))),
      ("selectRange", .several (.required [
        ("startIndex", offsetFormat.schema), ("endIndex", offsetFormat.schema)])),
      ("clearSelection", .unit),
      ("clearDecorations", .unit)] }
  toTagged
    | .refresh shown => ⟨"refresh", Refresh.format.toValue shown⟩
    | .queryDone captures => ⟨"queryDone", (Format.list Capture.format).toValue captures⟩
    | .queryError fault => ⟨"queryError", QueryFault.format.toValue fault⟩
    | .gotoNode id => ⟨"gotoNode", .record [.natural id]⟩
    | .scroll line => ⟨"scroll", .record [.natural line]⟩
    | .selectRange start stop => ⟨"selectRange", .record [.natural start, .natural stop]⟩
    | .clearSelection => ⟨"clearSelection", .absent⟩
    | .clearDecorations => ⟨"clearDecorations", .absent⟩
  ofTagged?
    | ⟨"refresh", value⟩ => (Refresh.format.ofValue? value).map .refresh
    | ⟨"queryDone", value⟩ => ((Format.list Capture.format).ofValue? value).map .queryDone
    | ⟨"queryError", value⟩ => (QueryFault.format.ofValue? value).map .queryError
    | ⟨"gotoNode", .record [.natural id]⟩ => some (.gotoNode id)
    | ⟨"scroll", .record [.natural line]⟩ => some (.scroll line)
    | ⟨"selectRange", .record [.natural start, .natural stop]⟩ => some (.selectRange start stop)
    | ⟨"clearSelection", _⟩ => some .clearSelection
    | ⟨"clearDecorations", _⟩ => some .clearDecorations
    | _ => none

end ViewEvent

end SyntaxExplorer
