import SyntaxExplorer.Proofs.Wire.JsonTexts
import SyntaxExplorer.Proofs.Wire.SchemaValues

/-! Values that a clear schema admits are read back from the JSON that is written of them, whether or
not all of it was seen before.
-/

namespace SyntaxExplorer.Wire

variable {mode : ReadMode}

-----------------------------------------------------------------------------------------
-- What is written can be parsed
-----------------------------------------------------------------------------------------

/-- A list of plain values is plain, by induction over it. -/
theorem JsonItems.ofList_plain {values : List Json} (each : ∀ value ∈ values, value.IsPlain)
    : (JsonItems.ofList values).IsPlain := by
  induction values with
  | nil => rfl
  | cons value values ih =>
      exact ⟨each value List.mem_cons_self,
        ih fun other member => each other (List.mem_cons_of_mem value member)⟩

mutual

/-- What is written of a value under a clear schema is plain JSON, by induction over the schema. -/
theorem Schema.toJson_plain
    : ∀ (schema : Schema) (value : Value),
        schema.isClear = true → schema.admits value = true → (schema.toJson value).IsPlain
  | .natural bits, .natural value, clear, admits => by
      simp only [Schema.isClear, Schema.admits, decide_eq_true_eq] at clear admits
      have bound : 2 ^ bits ≤ 2 ^ 64 := Nat.pow_le_pow_right (by decide) clear
      simp only [Schema.toJson, Json.IsPlain]
      omega
  | .integer bits, .integer value, clear, admits => by
      simp only [Schema.isClear, Schema.admits, Bool.and_eq_true, decide_eq_true_eq] at clear admits
      have bound : (2 : Int) ^ (bits - 1) ≤ 2 ^ 63 := by
        exact_mod_cast Nat.pow_le_pow_right (by decide : 0 < 2) (by omega : bits - 1 ≤ 63)
      simp only [Schema.toJson, Json.IsPlain]
      omega
  | .boolean, .boolean _, _, _ => trivial
  | .text, .text _, _, _ => trivial
  | .optional _, .absent, _, _ => trivial
  | .optional inner, .present value, clear, admits => by
      simp only [Schema.isClear, Bool.and_eq_true] at clear
      exact inner.toJson_plain value clear.2 admits
  | .list inner, .list values, clear, admits => by
      simp only [Schema.admits, List.all_eq_true] at admits
      have each : ∀ json ∈ values.map inner.toJson, json.IsPlain := by
        intro json member
        obtain ⟨value, among, rfl⟩ := List.mem_map.mp member
        exact inner.toJson_plain value clear (admits value among)
      exact JsonItems.ofList_plain each
  | .record fields, .record values, clear, admits => fields.toJson_plain values clear admits
  | .choice _, .choice _, _, _ => trivial

/-- What is written of the fields of a record is plain JSON. -/
theorem Fields.toJson_plain
    : ∀ (fields : Fields) (values : List Value),
        fields.isClear = true → fields.admits values = true → (fields.toJson values).IsPlain
  | .nil, [], _, _ => rfl
  | .cons _ presence _ _, [], _, admits => by
      cases presence <;> cases admits
  | .cons name presence schema rest, value :: values, clear, admits => by
      simp only [Fields.isClear, Bool.and_eq_true] at clear
      obtain ⟨⟨rfl, rfl⟩, others⟩ | ⟨written, own, others⟩ := Fields.admits_cons admits
      · exact rest.toJson_plain values clear.2 others
      · rw [Fields.toJson]
        · exact ⟨schema.toJson_plain value clear.1.2 own, rest.toJson_plain values clear.2 others⟩
        · exact written

end

mutual

/-- Plain JSON has no faults, by induction over it. -/
theorem Json.fault?_of_plain (skipped : Bool)
    : ∀ json : Json, json.IsPlain → json.fault? skipped = none
  | .null, _ | .boolean _, _ | .integer _, _ | .text _, _ => rfl
  | .list items, plain => items.fault?_of_plain skipped plain
  | .object entries, plain => entries.fault?_of_plain skipped plain

/-- Plain values of a list have no faults. -/
theorem JsonItems.fault?_of_plain (skipped : Bool)
    : ∀ items : JsonItems, items.IsPlain → items.fault? skipped = none
  | .done _, rfl => rfl
  | .more first rest, plain => by
      rw [JsonItems.fault?, first.fault?_of_plain skipped plain.1,
        rest.fault?_of_plain skipped plain.2]
      rfl

/-- Plain entries of an object have no faults. -/
theorem JsonEntries.fault?_of_plain (skipped : Bool)
    : ∀ entries : JsonEntries, entries.IsPlain → entries.fault? skipped = none
  | .done _, rfl => rfl
  | .more _ value rest, plain => by
      rw [JsonEntries.fault?, value.fault?_of_plain skipped plain.1,
        rest.fault?_of_plain skipped plain.2]
      rfl

end

-----------------------------------------------------------------------------------------
-- What is written is read back
-----------------------------------------------------------------------------------------

/-- Whether something may be absent does not matter to what is there. -/
theorem Json.read_optional {inner : Schema} {json : Json} (plain : inner.isOptional = false)
    (present : json ≠ .null)
    : json.read mode (.optional inner) = (json.read mode inner).map .present := by
  cases json with
  | null => exact (present rfl).elim
  | spoiled | broken | fraction => rfl
  | integer value =>
      cases inner with
      | optional => cases plain
      | natural bits =>
          simp only [Json.read, Schema.required, Schema.wrap]
          split <;> rfl
      | integer bits =>
          simp only [Json.read, Schema.required, Schema.wrap]
          split <;> rfl
      | boolean | text | list | record | choice => rfl
  | boolean =>
      cases inner <;> first | rfl | cases plain
  | text =>
      cases inner with
      | optional => cases plain
      | choice names =>
          simp only [Json.read, Schema.required, Schema.wrap, readChoice]
          split <;> rfl
      | natural | integer | boolean | text | list | record => rfl
  | list items =>
      cases inner with
      | optional => cases plain
      | list schema =>
          simp only [Json.read, Schema.required, Schema.wrap]
          cases items.readAll mode schema <;> rfl
      | record fields =>
          simp only [Json.read, Schema.required, Schema.wrap]
          cases items.readPositions mode fields <;> rfl
      | natural | integer | boolean | text | choice => rfl
  | object entries =>
      cases inner with
      | optional => cases plain
      | record fields =>
          simp only [Json.read, Schema.required, Schema.wrap]
          cases entries.readFields mode fields (List.replicate fields.size none) <;> rfl
      | choice names =>
          simp only [Json.read, Schema.required, Schema.wrap]
          cases readChoiceEntry mode names entries <;> rfl
      | natural | integer | boolean | text | list => rfl

/-- What is there is not written as if it were absent. -/
theorem Schema.toJson_ne_null
    : ∀ (schema : Schema) (value : Value),
        schema.isOptional = false → schema.admits value = true → schema.toJson value ≠ .null
  | .natural _, .natural _, _, _ => nofun
  | .integer _, .integer _, _, _ => nofun
  | .boolean, .boolean _, _, _ => nofun
  | .text, .text _, _, _ => nofun
  | .list _, .list _, _, _ => nofun
  | .record _, .record _, _, _ => nofun
  | .choice _, .choice _, _, _ => nofun

/-- Values that are read one by one are read as a list, by induction over them. -/
theorem JsonItems.readAll_ofList {schema : Schema} {write : Value → Json} {values : List Value}
    (each : ∀ value ∈ values, (write value).read mode schema = .ok value)
    : (JsonItems.ofList (values.map write)).readAll mode schema = .ok values := by
  induction values with
  | nil => rfl
  | cons value values ih =>
      have first := each value List.mem_cons_self
      have later := ih fun other member => each other (List.mem_cons_of_mem value member)
      simp only [List.map_cons, JsonItems.ofList, JsonItems.readAll, first, later]
      rfl

mutual

/-- A value that a clear schema admits is read from what is written of it, by induction over the
schema.
-/
theorem Schema.read_toJson
    : ∀ (schema : Schema) (value : Value),
        schema.isClear = true
        → schema.admits value = true
        → (schema.toJson value).read mode schema = .ok value
  | .natural bits, .natural value, _, admits => by
      simp only [Schema.admits, decide_eq_true_eq] at admits
      have bound : (value : Int) < 2 ^ bits := by exact_mod_cast admits
      exact if_pos ⟨Int.natCast_nonneg value, bound⟩
  | .integer bits, .integer value, _, admits => by
      simp only [Schema.admits, Bool.and_eq_true, decide_eq_true_eq] at admits
      exact if_pos admits
  | .boolean, .boolean value, _, _ => rfl
  | .text, .text value, _, _ => rfl
  | .choice names, .choice name, _, admits => by
      have known : readChoice mode names (.text name) = .ok (.choice name) := if_pos admits
      exact congrArg (Except.map _) known
  | .optional _, .absent, _, _ => rfl
  | .optional inner, .present value, clear, admits => by
      simp only [Schema.isClear, Bool.and_eq_true, Bool.not_eq_true'] at clear
      have own := inner.read_toJson value clear.2 admits
      have present := inner.toJson_ne_null value clear.1 admits
      rw [Schema.toJson, Json.read_optional clear.1 present, own]
      rfl
  | .list inner, .list values, clear, admits => by
      simp only [Schema.admits, List.all_eq_true] at admits
      have each := fun value member => inner.read_toJson value clear (admits value member)
      exact congrArg (Except.map Value.list) (JsonItems.readAll_ofList each)
  | .record fields, .record values, clear, admits => by
      have all := fields.readFields_toJson values fields [] clear admits (.refl fields)
      simp only [List.nil_append, fields.fill_slots values admits] at all
      exact congrArg (Except.map Value.record) all

/-- The last fields of a record are read from their entries behind the earlier ones, by induction
over them.  `slots` holds what was read of the earlier fields.
-/
theorem Fields.readFields_toJson
    : ∀ (rest : Fields) (values : List Value) (fields : Fields) (slots : List (Option Value)),
        rest.isClear = true
        → rest.admits values = true
        → rest.Follows slots.length fields
        → (rest.toJson values).readFields mode fields (slots ++ List.replicate rest.size none)
          = fields.fill (slots ++ rest.slots values)
  | .nil, [], fields, slots, _, _, _ => rfl
  | .cons _ presence _ _, [], _, _, _, admits, _ => by
      cases presence <;> cases admits
  | .cons name presence schema rest, value :: values, fields, slots, clear, admits, follows => by
      simp only [Fields.isClear, Bool.and_eq_true] at clear
      obtain ⟨⟨single, clear⟩, later⟩ := clear
      have next (slot : Option Value) : rest.Follows (slots ++ [slot]).length fields := by
        rw [List.length_append]
        exact follows.tail single
      obtain ⟨⟨rfl, rfl⟩, others⟩ | ⟨written, own, others⟩ := Fields.admits_cons admits
      · have read := rest.readFields_toJson values fields (slots ++ [none]) later others (next none)
        simpa [Fields.toJson, Fields.slots, Fields.size, List.replicate_succ] using read
      · have read := rest.readFields_toJson values fields (slots ++ [some value]) later others
          (next (some value))
        have first := schema.read_toJson value clear own
        have here := follows.first
        rw [Fields.toJson, Fields.slots, JsonEntries.readFields]
        · simpa [here, first, Fields.size, List.replicate_succ, bind, Except.bind] using read
        all_goals exact written

end

/-- The values of a record are read from its entries. -/
theorem Fields.read_toJson {fields : Fields} {values : List Value} (clear : fields.isClear = true)
    (admits : fields.admits values = true)
    : (fields.toJson values).readFields mode fields (List.replicate fields.size none)
      = .ok values := by
  rw [← fields.fill_slots values admits]
  exact fields.readFields_toJson values fields [] clear admits (.refl fields)

-----------------------------------------------------------------------------------------
-- Formats
-----------------------------------------------------------------------------------------

/-- A value that a clear schema admits is parsed from its text. -/
theorem Schema.parse_render {schema : Schema} {value : Value} (clear : schema.isClear = true)
    (admits : schema.admits value = true)
    : schema.parse (schema.render value) = .ok value := by
  rw [Schema.parse, Schema.render, Json.parse_render (schema.toJson_plain value clear admits)]
  simp only [schema.read_toJson value clear admits]
  rfl

/-- A value that an exact format with a clear schema admits is parsed from its text. -/
theorem Format.parse_render {α : Type} {format : Format α} {value : α} (exact : format.IsExact)
    (clear : format.schema.isClear = true) (admits : format.Admits value)
    : format.parse (format.render value) = .ok value := by
  rw [Format.parse, Format.render, Schema.parse_render clear admits]
  simp only [bind, Except.bind, exact value]
  rfl

end SyntaxExplorer.Wire
