import SyntaxExplorer.Wire.Json
/-!
Schemas of values that are exchanged and stored.  A schema says how a value is written, and what is
accepted in its place: records also as lists of their fields, fields in any order, and fields that a
record does not know.
-/

namespace SyntaxExplorer.Wire

/-- A value under a schema. -/
inductive Value
  | natural (value : Nat)
  | integer (value : Int)
  | boolean (value : Bool)
  | text (value : String)
  | absent
  | present (value : Value)
  | list (values : List Value)
  | record (values : List Value)
  | choice (name : String)
  deriving Inhabited

/-- Whether a field may be left out, and what it then is.  An omissible one is also left out where it
is written. -/
inductive Presence
  | required
  | defaulted (value : Value)
  | omissible

mutual

inductive Schema
  | natural (bits : Nat)
  | integer (bits : Nat)
  | boolean
  | text
  | optional (inner : Schema)
  | list (inner : Schema)
  | record (fields : Fields)
  | choice (names : List String)

inductive Fields
  | nil
  | cons (name : String) (presence : Presence) (schema : Schema) (rest : Fields)

end

namespace Fields

/-- Fields that all are required. -/
def required : List (String × Schema) → Fields
  | [] => .nil
  | (name, schema) :: rest => .cons name .required schema (required rest)

def ofList : List (String × Presence × Schema) → Fields
  | [] => .nil
  | (name, presence, schema) :: rest => .cons name presence schema (ofList rest)

def append : Fields → Fields → Fields
  | .nil, other => other
  | .cons name presence schema rest, other => .cons name presence schema (append rest other)

/-- The place and the schema of a field. -/
def find? (name : String) : Fields → Option (Nat × Schema)
  | .nil => none
  | .cons other _ schema rest =>
    if other = name then some (0, schema)
    else (rest.find? name).map fun (index, schema) => (index + 1, schema)

/-- The field at a place, with the place. -/
def at? (place : Nat) : Fields → Option (Nat × Schema)
  | .nil => none
  | .cons _ _ schema rest =>
    if place = 0 then some (0, schema)
    else (rest.at? (place - 1)).map fun (index, schema) => (index + 1, schema)

def size : Fields → Nat
  | .nil => 0
  | .cons _ _ _ rest => rest.size + 1

end Fields

mutual

/-- Writes a value as JSON. -/
def Schema.toJson : Schema → Value → Json
  | .natural _, .natural value => .integer value
  | .integer _, .integer value => .integer value
  | .boolean, .boolean value => .boolean value
  | .text, .text value => .text value
  | .optional inner, .present value => inner.toJson value
  | .list inner, .list values => .list (.ofList (values.map inner.toJson))
  | .record fields, .record values => .object (fields.toJson values)
  | .choice _, .choice name => .text name
  | _, _ => .null

def Fields.toJson : Fields → List Value → JsonEntries
  | .cons _ .omissible _ rest, .absent :: values => rest.toJson values
  | .cons name _ schema rest, value :: values =>
    .more name (schema.toJson value) (rest.toJson values)
  | _, _ => .done .closed

end

/-- Whether a value is read as its text goes on, or after all of it was seen. -/
inductive ReadMode
  | streamed
  | buffered
  deriving BEq, DecidableEq

/-- The fault of a list that goes on where it should end. -/
def ReadMode.surplus : ReadMode → Fault
  | .streamed => .malformed
  | .buffered => .mismatched

/-- Whether a list ends where it should. -/
def JsonItems.checkEnd (mode : ReadMode) : JsonItems → Except Fault Unit
  | .done .closed => .ok ()
  | .done (.unseparated fault) => .error fault
  | .done (.dangling _) | .more _ _ => .error mode.surplus

/-- The value that a missing field has. -/
def Presence.missing : Presence → Except Fault Value
  | .required => .error .mismatched
  | .defaulted value => .ok value
  | .omissible => .ok .absent

/-- The values of all fields, missing ones included. -/
def Fields.fill : Fields → List (Option Value) → Except Fault (List Value)
  | .nil, _ => .ok []
  | .cons _ presence _ rest, slots => do
    let value ← match slots with
      | some value :: _ => pure value
      | _ => presence.missing
    return value :: (← rest.fill slots.tail)

/-- A choice written as an object of one entry without a value. -/
def readChoiceEntry (mode : ReadMode) (names : List String) : JsonEntries → Except Fault Value
  | .done ending => .error (ending.fault?.getD mode.surplus)
  | .more name value rest => do
    unless names.contains name do
      throw .mismatched
    match value with
    | .null => pure ()
    | .broken fault => throw fault
    | _ => throw .mismatched
    match rest with
    | .done .closed => return .choice name
    | .done (.unseparated fault) => throw fault
    | _ => throw mode.surplus

/-- Reads a choice. -/
def readChoice (mode : ReadMode) (names : List String) : Json → Except Fault Value
  | .text name => if names.contains name then .ok (.choice name) else .error .mismatched
  | .object entries => readChoiceEntry mode names entries
  | .broken fault => .error fault
  | .spoiled => .error .malformed
  | _ => .error mode.surplus

/-- The schema of a value that is present. -/
def Schema.required : Schema → Schema
  | .optional inner => inner.required
  | schema => schema

/-- A present value under a schema. -/
def Schema.wrap : Schema → Value → Value
  | .optional inner, value => .present (inner.wrap value)
  | _, value => value

/-- The fault of a value of the wrong kind. -/
def Schema.wrongKind (mode : ReadMode) : Schema → Fault
  | .choice _ => mode.surplus
  | _ => .mismatched

mutual

/-- Reads a value of a schema. -/
def Json.read (mode : ReadMode) (schema : Schema) : Json → Except Fault Value
  | .broken fault => .error fault
  | .spoiled => .error .malformed
  | .null => match schema with
    | .optional _ => .ok .absent
    | schema => .error (schema.wrongKind mode)
  | .boolean value => match schema.required with
    | .boolean => .ok (schema.wrap (.boolean value))
    | required => .error (required.wrongKind mode)
  | .integer value => match schema.required with
    | .natural bits =>
      if 0 ≤ value ∧ value < Int.pow 2 bits then .ok (schema.wrap (.natural value.toNat))
      else .error .mismatched
    | .integer bits =>
      if -Int.pow 2 (bits - 1) ≤ value ∧ value < Int.pow 2 (bits - 1) then
        .ok (schema.wrap (.integer value))
      else .error .mismatched
    | required => .error (required.wrongKind mode)
  | .fraction => .error (schema.required.wrongKind mode)
  | .text value => match schema.required with
    | .text => .ok (schema.wrap (.text value))
    | .choice names => (readChoice mode names (.text value)).map schema.wrap
    | _ => .error .mismatched
  | .list items => match schema.required with
    | .list inner => (items.readAll mode inner).map fun values => schema.wrap (.list values)
    | .record fields =>
      (items.readPositions mode fields).map fun values => schema.wrap (.record values)
    | required => .error (required.wrongKind mode)
  | .object entries => match schema.required with
    | .record fields =>
      (entries.readFields mode fields (List.replicate fields.size none)).map fun values =>
        schema.wrap (.record values)
    | .choice names => (readChoiceEntry mode names entries).map schema.wrap
    | _ => .error .mismatched

/-- Reads a list of values of one schema. -/
def JsonItems.readAll (mode : ReadMode) (schema : Schema) : JsonItems → Except Fault (List Value)
  | .done ending => match ending.fault? with
    | some fault => .error fault
    | none => .ok []
  | .more first rest => do
    let value ← first.read mode schema
    return value :: (← rest.readAll mode schema)

/-- Reads a record that is written as the list of its fields. -/
def JsonItems.readPositions (mode : ReadMode) : Fields → JsonItems → Except Fault (List Value)
  | .nil, items => do
    items.checkEnd mode
    return []
  | .cons name presence schema rest, .done ending => match ending.fault? with
    | some fault => .error fault
    | none => (Fields.cons name presence schema rest).fill []
  | .cons _ _ schema rest, .more first items => do
    let value ← first.read mode schema
    return value :: (← items.readPositions mode rest)

/-- Reads the fields of a record from its entries; `slots` holds those that were read already. -/
def JsonEntries.readFields (mode : ReadMode) (fields : Fields) (slots : List (Option Value)) :
    JsonEntries → Except Fault (List Value)
  | .done ending => match ending.fault? with
    | some fault => .error fault
    | none => fields.fill slots
  | .more key value rest => match fields.find? key with
    | none => match value.fault? true with
      | some fault => .error fault
      | none => rest.readFields mode fields slots
    | some (index, schema) => do
      if (slots[index]?.join).isSome then
        throw .mismatched
      let read ← value.read mode schema
      rest.readFields mode fields (slots.set index (some read))

end

/-- Writes a value as a text. -/
def Schema.render (schema : Schema) (value : Value) : String := (schema.toJson value).render

/-- What is left after a value must be space. -/
def checkRest : Option (List Char) → Except Fault Unit
  | some rest => if (skipSpace rest).isEmpty then .ok () else .error .malformed
  | none => .error .malformed

/-- Reads a text as a value of a schema. -/
def Schema.parse (schema : Schema) (text : String) : Except Fault Value := do
  let (json, rest) := Json.parse text
  let value ← json.read .streamed schema
  checkRest rest
  return value

end SyntaxExplorer.Wire
