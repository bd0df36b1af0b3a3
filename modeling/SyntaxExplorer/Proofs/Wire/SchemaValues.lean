import Mathlib.Algebra.Order.Ring.Int
import SyntaxExplorer.Wire.Format

/-! Values under their schemas: which a schema admits, and when it tells them apart in what is written.
Nothing is said of lengths here.
-/

namespace SyntaxExplorer.Wire

-----------------------------------------------------------------------------------------
-- Schemas
-----------------------------------------------------------------------------------------

/-- A schema of values that may be absent. -/
def Schema.isOptional : Schema → Bool
  | .optional _ => true
  | _ => false

mutual

/-- Whether the values of a schema can be told apart in what is written: its numbers have no more than
64 bits, what may be absent is not absent in two ways, and no record has two fields of one name.
-/
def Schema.isClear : Schema → Bool
  | .natural bits => bits ≤ 64
  | .integer bits => 0 < bits && bits ≤ 64
  | .boolean | .text | .choice _ => true
  | .optional inner => !inner.isOptional && inner.isClear
  | .list inner => inner.isClear
  | .record fields => fields.isClear

def Fields.isClear : Fields → Bool
  | .nil => true
  | .cons name _ schema rest => (rest.find? name).isNone && schema.isClear && rest.isClear

end

mutual

/-- Whether a value is one of a schema: numbers have the bits that it has for them, and choices are
among its names.
-/
def Schema.admits : Schema → Value → Bool
  | .natural bits, .natural value => value < 2 ^ bits
  | .integer bits, .integer value => -(2 ^ (bits - 1)) ≤ value && value < 2 ^ (bits - 1)
  | .boolean, .boolean _ => true
  | .text, .text _ => true
  | .optional _, .absent => true
  | .optional inner, .present value => inner.admits value
  | .list inner, .list values => values.all inner.admits
  | .record fields, .record values => fields.admits values
  | .choice names, .choice name => names.contains name
  | _, _ => false

def Fields.admits : Fields → List Value → Bool
  | .nil, [] => true
  | .cons _ .omissible _ rest, .absent :: values => rest.admits values
  | .cons _ _ schema rest, value :: values => schema.admits value && rest.admits values
  | _, _ => false

end

/-- A required field holds a value of its schema. -/
@[simp] theorem Fields.admits_required {name : String} {schema : Schema} {rest : Fields}
    {value : Value} {values : List Value}
    : (Fields.cons name .required schema rest).admits (value :: values)
      = (schema.admits value && rest.admits values) :=
  rfl

/-- A field with a default holds a value of its schema. -/
@[simp] theorem Fields.admits_defaulted {name : String} {schema : Schema} {rest : Fields}
    {standard value : Value} {values : List Value}
    : (Fields.cons name (.defaulted standard) schema rest).admits (value :: values)
      = (schema.admits value && rest.admits values) :=
  rfl

/-- A field that may be left out holds a value of its schema, if that may be absent. -/
@[simp] theorem Fields.admits_omissible {name : String} {inner : Schema} {rest : Fields}
    {value : Value} {values : List Value}
    : (Fields.cons name .omissible (.optional inner) rest).admits (value :: values)
      = ((Schema.optional inner).admits value && rest.admits values) := by
  cases value <;> rfl

/-- No fields hold no values. -/
@[simp] theorem Fields.admits_nil : Fields.nil.admits [] = true := rfl

/-- What is read of the fields of a record: nothing of those that are left out. -/
def Fields.slots : Fields → List Value → List (Option Value)
  | .cons _ .omissible _ rest, .absent :: values => none :: rest.slots values
  | .cons _ _ _ rest, value :: values => some value :: rest.slots values
  | _, _ => []

/-- The first field of a record is left out, or it holds a value of its schema. -/
theorem Fields.admits_cons {name : String} {presence : Presence} {schema : Schema} {rest : Fields}
    {value : Value} {values : List Value}
    (admits : (Fields.cons name presence schema rest).admits (value :: values) = true)
    : (presence = .omissible ∧ value = .absent) ∧ rest.admits values = true
      ∨ (presence = .omissible → value ≠ .absent)
        ∧ schema.admits value = true
        ∧ rest.admits values = true := by
  by_cases left : presence = .omissible ∧ value = .absent
  · obtain ⟨rfl, rfl⟩ := left
    exact .inl ⟨⟨rfl, rfl⟩, admits⟩
  · have written := not_and.mp left
    rw [Fields.admits, Bool.and_eq_true] at admits
    · exact .inr ⟨written, admits⟩
    · exact written

/-- The values of a record are all there once what was left out is taken as absent, by induction over
the fields.
-/
theorem Fields.fill_slots
    : ∀ (fields : Fields) (values : List Value),
        fields.admits values = true → fields.fill (fields.slots values) = .ok values
  | .nil, [], _ => rfl
  | .cons name presence schema rest, [], admits => by
      cases presence <;> cases admits
  | .cons name presence schema rest, value :: values, admits => by
      obtain ⟨⟨rfl, rfl⟩, others⟩ | ⟨written, _, others⟩ := Fields.admits_cons admits
      · simp only [slots, fill, List.tail_cons, rest.fill_slots values others, Presence.missing]
        rfl
      · rw [slots, fill, List.tail_cons, rest.fill_slots values others]
        · rfl
        · exact written

/-- The last fields of a record stand among all of them behind so many others. -/
def Fields.Follows (rest : Fields) (count : Nat) (fields : Fields) : Prop :=
  ∀ name index schema,
    rest.find? name = some (index, schema) → fields.find? name = some (index + count, schema)

namespace Fields.Follows

variable {name : String} {presence : Presence} {schema : Schema} {rest fields : Fields} {count : Nat}

/-- All fields of a record stand behind none. -/
theorem refl (fields : Fields) : fields.Follows 0 fields := fun _ _ _ found => found

/-- The first of the last fields stands behind the earlier ones. -/
theorem first (follows : (Fields.cons name presence schema rest).Follows count fields)
    : fields.find? name = some (count, schema) := by
  have found := follows name 0 schema (by simp [find?])
  rwa [Nat.zero_add] at found

/-- The fields after the first stand behind one more, for no other has the name of the first. -/
theorem tail (follows : (Fields.cons name presence schema rest).Follows count fields)
    (single : (rest.find? name).isNone = true)
    : rest.Follows (count + 1) fields := by
  intro other index found later
  have different : name ≠ other := by
    rintro rfl
    simp [later] at single
  have place := follows other (index + 1) found (by simp [find?, different, later])
  rw [place]
  congr 2
  omega

end Fields.Follows

-----------------------------------------------------------------------------------------
-- Formats
-----------------------------------------------------------------------------------------

namespace Format

variable {α : Type}

/-- A format is exact if each value is what it stands for. -/
def IsExact (format : Format α) : Prop :=
  ∀ value, format.ofValue? (format.toValue value) = some value

/-- A format admits a value if its schema does. -/
def Admits (format : Format α) (value : α) : Prop :=
  format.schema.admits (format.toValue value) = true

instance (format : Format α) (value : α) : Decidable (format.Admits value) :=
  inferInstanceAs (Decidable (_ = true))

/-- A list is admitted if each of its values is. -/
@[simp] theorem list_admits {inner : Format α} {values : List α}
    : (Schema.list inner.schema).admits ((Format.list inner).toValue values) = true
      ↔ ∀ value ∈ values, inner.Admits value := by
  simp [Format.Admits, Format.list, Schema.admits]

/-- Absent values and present ones are told apart. -/
theorem IsExact.optional {inner : Format α} (exact : inner.IsExact)
    : (Format.optional inner).IsExact := by
  rintro (_ | value)
  · rfl
  · exact congrArg (·.map some) (exact value)

/-- The values of a list are read one after another, by induction over them. -/
theorem IsExact.list {inner : Format α} (exact : inner.IsExact)
    : (Format.list inner).IsExact := by
  intro values
  change (values.map inner.toValue).mapM inner.ofValue? = some values
  induction values with
  | nil => rfl
  | cons value values ih => simp [exact value, ih]

end Format

end SyntaxExplorer.Wire
