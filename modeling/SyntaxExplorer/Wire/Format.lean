import SyntaxExplorer.Wire.Tagged
/-!
Formats of types: a schema or a set of messages, with the way between the type and what is written.
-/

namespace SyntaxExplorer.Wire

/-- How the values of a type stand under a schema. -/
structure Format (α : Type) where
  schema : Schema
  toValue : α → Value
  ofValue? : Value → Option α

namespace Format

/-- Natural numbers of so many bits. -/
def natural (bits : Nat) : Format Nat where
  schema := .natural bits
  toValue := .natural
  ofValue?
    | .natural value => some value
    | _ => none

def integer (bits : Nat) : Format Int where
  schema := .integer bits
  toValue := .integer
  ofValue?
    | .integer value => some value
    | _ => none

def boolean : Format Bool where
  schema := .boolean
  toValue := .boolean
  ofValue?
    | .boolean value => some value
    | _ => none

def text : Format String where
  schema := .text
  toValue := .text
  ofValue?
    | .text value => some value
    | _ => none

def optional (inner : Format α) : Format (Option α) where
  schema := .optional inner.schema
  toValue
    | some value => .present (inner.toValue value)
    | none => .absent
  ofValue?
    | .present value => (inner.ofValue? value).map some
    | .absent => some none
    | _ => none

def list (inner : Format α) : Format (List α) where
  schema := .list inner.schema
  toValue values := .list (values.map inner.toValue)
  ofValue?
    | .list values => values.mapM inner.ofValue?
    | _ => none

def render (format : Format α) (value : α) : String := format.schema.render (format.toValue value)

def parse (format : Format α) (text : String) : Except Fault α := do
  match format.ofValue? (← format.schema.parse text) with
  | some value => return value
  | none => throw .mismatched

end Format

/-- How the messages of a type are enveloped. -/
structure EnvelopeFormat (α : Type) where
  messages : Enveloped
  toTagged : α → Tagged
  ofTagged? : Tagged → Option α

namespace EnvelopeFormat

def render (format : EnvelopeFormat α) (message : α) : String :=
  format.messages.render (format.toTagged message)

def parse (format : EnvelopeFormat α) (text : String) : Except Fault α := do
  match format.ofTagged? (← format.messages.parse text) with
  | some message => return message
  | none => throw .mismatched

end EnvelopeFormat

/-- How the messages of a type are written with the kind among their fields. -/
structure InlineFormat (α : Type) where
  messages : Inlined
  toTagged : α → Tagged
  ofTagged? : Tagged → Option α

namespace InlineFormat

def render (format : InlineFormat α) (message : α) : String :=
  format.messages.render (format.toTagged message)

def parse (format : InlineFormat α) (text : String) : Except Fault α := do
  match format.ofTagged? (← format.messages.parse text) with
  | some message => return message
  | none => throw .mismatched

end InlineFormat

end SyntaxExplorer.Wire
