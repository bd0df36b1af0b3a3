import SyntaxExplorer.Wire.Schema
/-!
Messages of several kinds.  The kind stands in a field of its own, either beside a field that holds the
content, or among the fields of the content.
-/

namespace SyntaxExplorer.Wire

/-- The content of one kind of message. -/
inductive Body
  | unit
  | single (schema : Schema)
  | several (fields : Fields)

/-- A message: its kind, and its content under the body of that kind. -/
structure Tagged where
  kind : String
  content : Value
  deriving Inhabited

/-- Messages with the kind in one field and the content in another. -/
structure Enveloped where
  tag : String
  content : String
  bodies : List (String × Body)

/-- Messages with the kind among the fields of the content. -/
structure Inlined where
  tag : String
  bodies : List (String × Fields)

/-- What an entry of a message is. -/
inductive EntryRole
  | tag
  | content
  deriving BEq, DecidableEq

namespace Body

def toJson : Body → Value → Json
  | .unit, _ => .null
  | .single schema, value => schema.toJson value
  | .several fields, .record values => .object (fields.toJson values)
  | .several _, _ => .null

/-- Reads a content.  Content of several fields is no list. -/
def read (mode : ReadMode) (body : Body) (json : Json) : Except Fault Value :=
  match body, json with
  | .single schema, json => json.read mode schema
  | _, .broken fault => .error fault
  | _, .spoiled => .error .malformed
  | .unit, .null => .ok .absent
  | .several fields, .object entries =>
    (entries.readFields mode fields (List.replicate fields.size none)).map .record
  | _, _ => .error .mismatched

/-- The content of a message that has none. -/
def missing : Body → Except Fault Value
  | .unit => .ok .absent
  | _ => .error .mismatched

end Body

namespace Enveloped

def toJson (messages : Enveloped) (message : Tagged) : Json :=
  let tag := (messages.tag, Json.text message.kind)
  match messages.bodies.lookup message.kind with
  | none | some .unit => .object (.ofList [tag])
  | some body => .object (.ofList [tag, (messages.content, body.toJson message.content)])

/-- The first entry of a message that counts, with those after it; the others are skipped. -/
def nextEntry (messages : Enveloped) :
    JsonEntries → Except Fault (Option (EntryRole × Json × JsonEntries))
  | .done ending => match ending.fault? with
    | some fault => .error fault
    | none => .ok none
  | .more key value rest =>
    if key = messages.tag then .ok (some (.tag, value, rest))
    else if key = messages.content then .ok (some (.content, value, rest))
    else match value.fault? true with
      | some fault => .error fault
      | none => messages.nextEntry rest

/-- Reads the kind of a message, with the body of that kind. -/
def readKind (messages : Enveloped) (json : Json) : Except Fault (String × Body) := do
  match ← readChoice .streamed (messages.bodies.map (·.1)) json with
  | .choice kind => match messages.bodies.lookup kind with
    | some body => return (kind, body)
    | none => throw .mismatched
  | _ => throw .mismatched

/-- No entry that counts may follow. -/
def checkNoMore (messages : Enveloped) (entries : JsonEntries) : Except Fault Unit := do
  if (← messages.nextEntry entries).isSome then
    throw .mismatched

/-- Reads a message from its entries.  A content before its kind is read once the kind is known. -/
def readEntries (messages : Enveloped) (entries : JsonEntries) : Except Fault Tagged := do
  match ← messages.nextEntry entries with
  | none => throw .mismatched
  | some (.tag, tag, rest) =>
    let (kind, body) ← messages.readKind tag
    match ← messages.nextEntry rest with
    | none => return ⟨kind, ← body.missing⟩
    | some (.tag, _, _) => throw .mismatched
    | some (.content, content, rest) =>
      let value ← body.read .streamed content
      messages.checkNoMore rest
      return ⟨kind, value⟩
  | some (.content, content, rest) =>
    if let some fault := content.fault? false then
      throw fault
    match ← messages.nextEntry rest with
    | some (.tag, tag, rest) =>
      let (kind, body) ← messages.readKind tag
      let value ← body.read .buffered content
      messages.checkNoMore rest
      return ⟨kind, value⟩
    | _ => throw .mismatched

/-- Reads a message: from its entries, or from a list of kind and content. -/
def read (messages : Enveloped) : Json → Except Fault Tagged
  | .broken fault => .error fault
  | .spoiled => .error .malformed
  | .object entries => messages.readEntries entries
  | .list (.more tag rest) => do
    let (kind, body) ← messages.readKind tag
    match rest with
    | .done ending => throw (ending.fault?.getD .mismatched)
    | .more content rest =>
      let value ← body.read .streamed content
      rest.checkEnd .streamed
      return ⟨kind, value⟩
  | .list (.done ending) => .error (ending.fault?.getD .mismatched)
  | _ => .error .mismatched

def render (messages : Enveloped) (message : Tagged) : String := (messages.toJson message).render

def parse (messages : Enveloped) (text : String) : Except Fault Tagged := do
  let (json, rest) := Json.parse text
  let message ← messages.read json
  checkRest rest
  return message

end Enveloped

namespace Inlined

def toJson (messages : Inlined) (message : Tagged) : Json :=
  match messages.bodies.lookup message.kind, message.content with
  | some fields, .record values =>
    .object (.more messages.tag (.text message.kind) (fields.toJson values))
  | _, _ => .object (.ofList [(messages.tag, .text message.kind)])

/-- Reads the kind of a message, with the fields of that kind. -/
def readKind (messages : Inlined) : Json → Except Fault (String × Fields)
  | .text kind => match messages.bodies.lookup kind with
    | some fields => .ok (kind, fields)
    | none => .error .mismatched
  | .broken fault => .error fault
  | .spoiled => .error .malformed
  | _ => .error .mismatched

/-- Takes the kind out of the entries of a message, all of which must be well formed. -/
def extract (messages : Inlined) (found : Option (String × Fields)) :
    JsonEntries → Except Fault (Option (String × Fields) × JsonEntries)
  | .done ending => match ending.fault? with
    | some fault => .error fault
    | none => .ok (found, .done .closed)
  | .more key value rest =>
    if key = messages.tag then do
      if found.isSome then
        throw .mismatched
      let kind ← messages.readKind value
      messages.extract (some kind) rest
    else match value.fault? false with
      | some fault => .error fault
      | none => (messages.extract found rest).map fun (found, rest) => (found, .more key value rest)

/-- Reads a message: from its entries, or from a list of its kind and its fields. -/
def read (messages : Inlined) : Json → Except Fault Tagged
  | .broken fault => .error fault
  | .spoiled => .error .malformed
  | .object entries => do
    match ← messages.extract none entries with
    | (some (kind, fields), rest) =>
      let values ← rest.readFields .buffered fields (List.replicate fields.size none)
      return ⟨kind, .record values⟩
    | (none, _) => throw .mismatched
  | .list (.more tag rest) => do
    let (kind, fields) ← messages.readKind tag
    if let some fault := rest.fault? false then
      throw fault
    let values ← rest.readPositions .buffered fields
    return ⟨kind, .record values⟩
  | .list (.done ending) => .error (ending.fault?.getD .mismatched)
  | _ => .error .mismatched

def render (messages : Inlined) (message : Tagged) : String := (messages.toJson message).render

def parse (messages : Inlined) (text : String) : Except Fault Tagged := do
  let (json, rest) := Json.parse text
  let message ← messages.read json
  checkRest rest
  return message

end Inlined

end SyntaxExplorer.Wire
