import SyntaxExplorer.Proofs.Store.Entries
import SyntaxExplorer.Proofs.Wire.JsonValues

/-! Messages are read back from their texts, wherever their kind stands: beside their content, or among
the fields of it.
-/

namespace SyntaxExplorer.Wire

-----------------------------------------------------------------------------------------
-- Contents
-----------------------------------------------------------------------------------------

namespace Body

/-- Whether the contents under a body can be told apart in what is written. -/
def isClear : Body → Bool
  | .unit => true
  | .single schema => schema.isClear
  | .several fields => fields.isClear

/-- Whether a content is one of a body. -/
def admits : Body → Value → Bool
  | .unit, .absent => true
  | .single schema, value => schema.admits value
  | .several fields, .record values => fields.admits values
  | _, _ => false

/-- What is written of a content is plain JSON. -/
theorem toJson_plain
    : ∀ (body : Body) (value : Value),
        body.isClear = true → body.admits value = true → (body.toJson value).IsPlain
  | .unit, .absent, _, _ => trivial
  | .single schema, value, clear, admits => schema.toJson_plain value clear admits
  | .several fields, .record values, clear, admits => fields.toJson_plain values clear admits

/-- A content is read from what is written of it. -/
theorem read_toJson (mode : ReadMode)
    : ∀ (body : Body) (value : Value),
        body.isClear = true
        → body.admits value = true
        → body.read mode (body.toJson value) = .ok value
  | .unit, .absent, _, _ => rfl
  | .single schema, value, clear, admits => schema.read_toJson value clear admits
  | .several _, .record _, clear, admits =>
      congrArg (Except.map Value.record) (Fields.read_toJson clear admits)

end Body

-----------------------------------------------------------------------------------------
-- Kinds beside contents
-----------------------------------------------------------------------------------------

namespace Enveloped

variable {messages : Enveloped} {message : Tagged} {kind : String} {body : Body}

/-- Whether messages can be told apart in what is written: their kinds and their contents stand in
different fields, and all contents are told apart.
-/
def isClear (messages : Enveloped) : Bool :=
  messages.tag != messages.content && messages.bodies.all (·.2.isClear)

/-- Whether a message has one of the kinds, and a content under the body of that kind. -/
def admits (messages : Enveloped) (message : Tagged) : Bool :=
  (messages.bodies.lookup message.kind).any (·.admits message.content)

/-- The field of the kind counts. -/
theorem nextEntry_tag (value : Json) (rest : JsonEntries)
    : messages.nextEntry (.more messages.tag value rest) = .ok (some (.tag, value, rest)) :=
  if_pos rfl

/-- The field of the content counts, if it is another than that of the kind. -/
theorem nextEntry_content (different : messages.content ≠ messages.tag) (value : Json)
    (rest : JsonEntries)
    : messages.nextEntry (.more messages.content value rest)
      = .ok (some (.content, value, rest)) := by
  rw [nextEntry, if_neg different, if_pos rfl]

/-- The body of a kind is found by the name of the kind. -/
theorem readKind_text (known : messages.bodies.lookup kind = some body)
    : messages.readKind (.text kind) = .ok (kind, body) := by
  have name : (messages.bodies.map (·.1)).contains kind = true :=
    List.contains_iff_mem.mpr (List.mem_map_of_mem (mem_of_lookup known))
  simp only [readKind, readChoice, name, if_true, bind, Except.bind, known]
  rfl

/-- What is written of a message is plain JSON. -/
theorem toJson_plain (clear : messages.isClear = true) (admits : messages.admits message = true)
    : (messages.toJson message).IsPlain := by
  simp only [isClear, Bool.and_eq_true, List.all_eq_true] at clear
  simp only [Enveloped.admits, Option.any_eq_true] at admits
  obtain ⟨body, known, admits⟩ := admits
  have content := body.toJson_plain message.content (clear.2 _ (mem_of_lookup known)) admits
  rw [toJson, known]
  cases body with
  | unit => exact ⟨trivial, rfl⟩
  | single | several => exact ⟨trivial, content, rfl⟩

/-- A message is read from what is written of it, its kind before its content. -/
theorem read_toJson (clear : messages.isClear = true) (admits : messages.admits message = true)
    : messages.read (messages.toJson message) = .ok message := by
  obtain ⟨kind, content⟩ := message
  simp only [isClear, Bool.and_eq_true, List.all_eq_true, bne_iff_ne] at clear
  simp only [Enveloped.admits, Option.any_eq_true] at admits
  obtain ⟨body, known, admits⟩ := admits
  have kindRead := readKind_text known
  have contentRead := body.read_toJson .streamed content (clear.2 _ (mem_of_lookup known)) admits
  have contentNext (value : Json) := nextEntry_content clear.1.symm value (.done .closed)
  have noMore : messages.nextEntry (.done .closed) = .ok none := rfl
  simp only [toJson, known]
  cases body with
  | unit =>
      cases content <;> cases admits
      simp only [read, JsonEntries.ofList, readEntries, nextEntry_tag, noMore, kindRead, bind,
        Except.bind, Body.missing]
      rfl
  | single | several =>
      simp only [read, JsonEntries.ofList, readEntries, nextEntry_tag, contentNext, contentRead,
        checkNoMore, noMore, kindRead, bind, Except.bind]
      rfl

/-- A message is parsed from its text. -/
theorem parse_render (clear : messages.isClear = true) (admits : messages.admits message = true)
    : messages.parse (messages.render message) = .ok message := by
  rw [parse, render, Json.parse_render (toJson_plain clear admits)]
  simp only [read_toJson clear admits]
  rfl

end Enveloped

-----------------------------------------------------------------------------------------
-- Kinds among fields
-----------------------------------------------------------------------------------------

namespace Inlined

variable {messages : Inlined} {message : Tagged} {kind : String} {fields : Fields}

/-- Whether messages can be told apart in what is written: no field stands where the kind does, and
all contents are told apart.
-/
def isClear (messages : Inlined) : Bool :=
  messages.bodies.all fun (_, fields) => (fields.find? messages.tag).isNone && fields.isClear

/-- Whether a message has one of the kinds, and a record of the fields of that kind. -/
def admits (messages : Inlined) (message : Tagged) : Bool :=
  (messages.bodies.lookup message.kind).any fun fields =>
    (Schema.record fields).admits message.content

/-- The kind is taken out where it comes first. -/
theorem extract_kind (known : messages.bodies.lookup kind = some fields) (rest : JsonEntries)
    : messages.extract none (.more messages.tag (.text kind) rest)
      = messages.extract (some (kind, fields)) rest := by
  have kindRead : messages.readKind (.text kind) = .ok (kind, fields) := by
    simp only [readKind, known]
  rw [extract, if_pos rfl, kindRead]
  rfl

/-- Fields under other names than the kind are left where they are, by induction over them. -/
theorem extract_toJson (found : Option (String × Fields))
    : ∀ (fields : Fields) (values : List Value),
        (fields.find? messages.tag).isNone = true
        → fields.isClear = true
        → fields.admits values = true
        → messages.extract found (fields.toJson values) = .ok (found, fields.toJson values)
  | .nil, [], _, _, _ => rfl
  | .cons _ presence _ _, [], _, _, admits => by
      cases presence <;> cases admits
  | .cons name presence schema rest, value :: values, other, clear, admits => by
      simp only [Fields.isClear, Bool.and_eq_true] at clear
      simp only [Fields.find?] at other
      split at other
      · cases other
      · rename_i different
        rw [Option.isNone_map] at other
        obtain ⟨⟨rfl, rfl⟩, others⟩ | ⟨written, own, others⟩ := Fields.admits_cons admits
        · exact extract_toJson found rest values other clear.2 others
        · have plain := schema.toJson_plain value clear.1.2 own
          have later := extract_toJson found rest values other clear.2 others
          rw [Fields.toJson]
          · simp only [extract, if_neg different, Json.fault?_of_plain false _ plain, later]
            rfl
          · exact written

/-- What is written of a message is plain JSON. -/
theorem toJson_plain (clear : messages.isClear = true) (admits : messages.admits message = true)
    : (messages.toJson message).IsPlain := by
  obtain ⟨kind, content⟩ := message
  simp only [isClear, List.all_eq_true, Bool.and_eq_true] at clear
  simp only [Inlined.admits, Option.any_eq_true] at admits
  obtain ⟨fields, known, admits⟩ := admits
  cases content with
  | record values =>
      simp only [toJson, known]
      exact ⟨trivial, fields.toJson_plain values (clear _ (mem_of_lookup known)).2 admits⟩
  | _ => cases admits

/-- A message is read from what is written of it, its kind taken out first. -/
theorem read_toJson (clear : messages.isClear = true) (admits : messages.admits message = true)
    : messages.read (messages.toJson message) = .ok message := by
  obtain ⟨kind, content⟩ := message
  simp only [isClear, List.all_eq_true, Bool.and_eq_true] at clear
  simp only [Inlined.admits, Option.any_eq_true] at admits
  obtain ⟨fields, known, admits⟩ := admits
  obtain ⟨other, clear⟩ := clear _ (mem_of_lookup known)
  cases content with
  | record values =>
      have extracted := extract_toJson (some (kind, fields)) fields values other clear admits
      have valuesRead : (fields.toJson values).readFields .buffered fields
          (List.replicate fields.size none) = .ok values := Fields.read_toJson clear admits
      simp only [toJson, known, read, extract_kind known, extracted, bind, Except.bind, valuesRead]
      rfl
  | _ => cases admits

/-- A message is parsed from its text. -/
theorem parse_render (clear : messages.isClear = true) (admits : messages.admits message = true)
    : messages.parse (messages.render message) = .ok message := by
  rw [parse, render, Json.parse_render (toJson_plain clear admits)]
  simp only [read_toJson clear admits]
  rfl

end Inlined

-----------------------------------------------------------------------------------------
-- Formats of messages
-----------------------------------------------------------------------------------------

namespace EnvelopeFormat

variable {α : Type}

/-- A format is exact if each message is what it stands for. -/
def IsExact (format : EnvelopeFormat α) : Prop :=
  ∀ message, format.ofTagged? (format.toTagged message) = some message

/-- A format admits a message if it is one of its messages. -/
def Admits (format : EnvelopeFormat α) (message : α) : Prop :=
  format.messages.admits (format.toTagged message) = true

instance (format : EnvelopeFormat α) (message : α) : Decidable (format.Admits message) :=
  inferInstanceAs (Decidable (_ = true))

/-- A message that an exact format with clear messages admits is parsed from its text. -/
theorem parse_render {format : EnvelopeFormat α} {message : α} (exact : format.IsExact)
    (clear : format.messages.isClear = true) (admits : format.Admits message)
    : format.parse (format.render message) = .ok message := by
  rw [parse, render, Enveloped.parse_render clear admits]
  simp only [bind, Except.bind, exact message]
  rfl

end EnvelopeFormat

namespace InlineFormat

variable {α : Type}

/-- A format is exact if each message is what it stands for. -/
def IsExact (format : InlineFormat α) : Prop :=
  ∀ message, format.ofTagged? (format.toTagged message) = some message

/-- A format admits a message if it is one of its messages. -/
def Admits (format : InlineFormat α) (message : α) : Prop :=
  format.messages.admits (format.toTagged message) = true

instance (format : InlineFormat α) (message : α) : Decidable (format.Admits message) :=
  inferInstanceAs (Decidable (_ = true))

/-- A message that an exact format with clear messages admits is parsed from its text. -/
theorem parse_render {format : InlineFormat α} {message : α} (exact : format.IsExact)
    (clear : format.messages.isClear = true) (admits : format.Admits message)
    : format.parse (format.render message) = .ok message := by
  rw [parse, render, Inlined.parse_render clear admits]
  simp only [bind, Except.bind, exact message]
  rfl

end InlineFormat

end SyntaxExplorer.Wire
