import SyntaxExplorer.Proofs.Wire.PackedBytes
import SyntaxExplorer.Proofs.Wire.SchemaValues

/-! Values that fit their schema are read back from their bytes.  The bytes spell a packed value, and
that is read under the schema as the value that it was made from.
-/

namespace SyntaxExplorer.Wire

open Text

-----------------------------------------------------------------------------------------
-- Schemas and values that can be packed
-----------------------------------------------------------------------------------------

mutual

/-- Whether the values of a schema can be told apart in what is packed: its numbers have no more than
64 bits, what may be absent is not absent in two ways, and no record has two fields of one name.
-/
def Schema.isDistinct : Schema → Bool
  | .natural bits => bits ≤ 64
  | .integer bits => 0 < bits && bits ≤ 64
  | .boolean | .text => true
  | .optional inner => !inner.isOptional && inner.isDistinct
  | .list inner => inner.isDistinct
  | .record fields => fields.size < 2 ^ 32 && fields.isDistinct
  | .choice _ => false

def Fields.isDistinct : Fields → Bool
  | .nil => true
  | .cons name _ schema rest =>
      (bytes name).length < 2 ^ 32 && (rest.find? name).isNone && schema.isDistinct
      && rest.isDistinct

end

mutual

/-- Whether a value fits a schema: numbers have the bits that it has for them, and texts and lists
have lengths of 32 bits.
-/
def Schema.fits : Schema → Value → Bool
  | .natural bits, .natural value => value < 2 ^ bits
  | .integer bits, .integer value => -(2 ^ (bits - 1)) ≤ value && value < 2 ^ (bits - 1)
  | .boolean, .boolean _ => true
  | .text, .text value => (bytes value).length < 2 ^ 32
  | .optional _, .absent => true
  | .optional inner, .present value => inner.fits value
  | .list inner, .list values => values.length < 2 ^ 32 && values.all inner.fits
  | .record fields, .record values => fields.fits values
  | _, _ => false

def Fields.fits : Fields → List Value → Bool
  | .nil, [] => true
  | .cons _ .omissible _ rest, .absent :: values => rest.fits values
  | .cons _ _ schema rest, value :: values => schema.fits value && rest.fits values
  | _, _ => false

end

/-- A required field holds a value that fits its schema. -/
@[simp] theorem Fields.fits_required {name : String} {schema : Schema} {rest : Fields}
    {value : Value} {values : List Value}
    : (Fields.cons name .required schema rest).fits (value :: values)
      = (schema.fits value && rest.fits values) :=
  rfl

/-- A field that may be left out holds a value that fits its schema, if that may be absent. -/
@[simp] theorem Fields.fits_omissible {name : String} {inner : Schema} {rest : Fields}
    {value : Value} {values : List Value}
    : (Fields.cons name .omissible (.optional inner) rest).fits (value :: values)
      = ((Schema.optional inner).fits value && rest.fits values) := by
  cases value <;> rfl

/-- The first field of a record is left out, or it holds a value that fits its schema. -/
theorem Fields.fits_cons {name : String} {presence : Presence} {schema : Schema} {rest : Fields}
    {value : Value} {values : List Value}
    (fits : (Fields.cons name presence schema rest).fits (value :: values) = true)
    : (presence = .omissible ∧ value = .absent) ∧ rest.fits values = true
      ∨ (presence = .omissible → value ≠ .absent)
        ∧ schema.fits value = true
        ∧ rest.fits values = true := by
  by_cases left : presence = .omissible ∧ value = .absent
  · obtain ⟨rfl, rfl⟩ := left
    exact .inl ⟨⟨rfl, rfl⟩, fits⟩
  · have written := not_and.mp left
    rw [Fields.fits, Bool.and_eq_true] at fits
    · exact .inr ⟨written, fits⟩
    · exact written

mutual

/-- A schema admits each value that fits it. -/
theorem Schema.admits_of_fits
    : ∀ (schema : Schema) (value : Value),
        schema.fits value = true → schema.admits value = true
  | .natural _, .natural _, fits => fits
  | .integer _, .integer _, fits => fits
  | .boolean, .boolean _, _ => rfl
  | .text, .text _, _ => rfl
  | .optional _, .absent, _ => rfl
  | .optional inner, .present value, fits => inner.admits_of_fits value fits
  | .list inner, .list values, fits => by
      simp only [Schema.fits, Bool.and_eq_true, List.all_eq_true] at fits
      simp only [Schema.admits, List.all_eq_true]
      exact fun value member => inner.admits_of_fits value (fits.2 value member)
  | .record fields, .record values, fits => fields.admits_of_fits values fits

/-- A record admits all values that fit its fields. -/
theorem Fields.admits_of_fits
    : ∀ (fields : Fields) (values : List Value),
        fields.fits values = true → fields.admits values = true
  | .nil, [], _ => rfl
  | .cons _ presence _ _, [], fits => by
      cases presence <;> cases fits
  | .cons name presence schema rest, value :: values, fits => by
      obtain ⟨⟨rfl, rfl⟩, others⟩ | ⟨written, own, others⟩ := Fields.fits_cons fits
      · exact rest.admits_of_fits values others
      · rw [Fields.admits, Bool.and_eq_true]
        · exact ⟨schema.admits_of_fits value own, rest.admits_of_fits values others⟩
        · exact written

end

mutual

/-- What a value is packed as. -/
def Schema.packed : Schema → Value → Pack
  | .natural _, .natural value => .integer false value
  | .integer _, .integer value => .integer (decide (value < 0)) value
  | .boolean, .boolean value => .boolean value
  | .text, .text value => .text (bytes value)
  | .optional inner, .present value => inner.packed value
  | .list inner, .list values => .list (values.map inner.packed)
  | .record fields, .record values => .map (fields.packed values)
  | _, _ => .null

/-- What the fields of a record are packed as, but for those that are left out. -/
def Fields.packed : Fields → List Value → List (Pack × Pack)
  | .cons _ .omissible _ rest, .absent :: values => rest.packed values
  | .cons name _ schema rest, value :: values =>
      (.text (bytes name), schema.packed value) :: rest.packed values
  | _, _ => []

end

mutual

/-- How many lists and records stand in one another in the values of a schema. -/
def Schema.levels : Schema → Nat
  | .optional inner => inner.levels
  | .list inner => inner.levels + 1
  | .record fields => fields.levels + 1
  | _ => 0

/-- The levels of the deepest field of a record. -/
def Fields.levels : Fields → Nat
  | .nil => 0
  | .cons _ _ schema rest => max schema.levels rest.levels

end

/-- Values of limited levels have limited levels together, by induction over them. -/
theorem Pack.levelsOfAll_map_le {packed : Value → Pack} {bound : Nat}
    (each : ∀ value, (packed value).levels ≤ bound) (values : List Value)
    : Pack.levelsOfAll (values.map packed) ≤ bound := by
  induction values with
  | nil => exact Nat.zero_le bound
  | cons value values ih => exact Nat.max_le.mpr ⟨each value, ih⟩

mutual

/-- What a value is packed as is nested no deeper than its schema, by induction over the schema. -/
theorem Schema.levels_packed_le
    : ∀ (schema : Schema) (value : Value), (schema.packed value).levels ≤ schema.levels
  | .optional inner, value => by
      cases value with
      | present value => exact inner.levels_packed_le value
      | _ => exact Nat.zero_le _
  | .list inner, value => by
      cases value with
      | list values =>
          exact Nat.succ_le_succ (Pack.levelsOfAll_map_le inner.levels_packed_le values)
      | _ => exact Nat.zero_le _
  | .record fields, value => by
      cases value with
      | record values => exact Nat.succ_le_succ (fields.levels_packed_le values)
      | _ => exact Nat.zero_le _
  | .natural _, value | .integer _, value | .boolean, value | .text, value | .choice _, value => by
      cases value <;> exact Nat.zero_le _

/-- What the fields of a record are packed as is nested no deeper than they are. -/
theorem Fields.levels_packed_le
    : ∀ (fields : Fields) (values : List Value),
        Pack.levelsOfEntries (fields.packed values) ≤ fields.levels
  | .nil, _ => Nat.zero_le _
  | .cons _ presence _ _, [] => by
      cases presence <;> exact Nat.zero_le _
  | .cons name presence schema rest, value :: values => by
      have others := Nat.le_trans (rest.levels_packed_le values)
        (Nat.le_max_right schema.levels rest.levels)
      by_cases left : presence = .omissible ∧ value = .absent
      · obtain ⟨rfl, rfl⟩ := left
        exact others
      · have own := Nat.le_trans (schema.levels_packed_le value)
          (Nat.le_max_left schema.levels rest.levels)
        rw [Fields.packed]
        · exact Nat.max_le.mpr ⟨Nat.max_le.mpr ⟨Nat.zero_le _, own⟩, others⟩
        · exact not_and.mp left

end

-----------------------------------------------------------------------------------------
-- From values to bytes
-----------------------------------------------------------------------------------------

/-- Values that are spelled one after another are spelled as a whole, by induction over them. -/
theorem SpellsAll.flatMap {write : Value → List UInt8} {packed : Value → Pack}
    {values : List Value} (each : ∀ value ∈ values, Spells (write value) (packed value))
    : SpellsAll (values.flatMap write) (values.map packed) := by
  induction values with
  | nil => exact .nil
  | cons value values ih =>
      rw [List.flatMap_cons, List.map_cons]
      refine .cons (each value List.mem_cons_self) (ih fun other member => ?_)
      exact each other (List.mem_cons_of_mem value member)

mutual

/-- The bytes of a value that fits spell what it is packed as, by induction over the schema. -/
theorem Schema.pack_spells
    : ∀ (schema : Schema) (value : Value),
        schema.isDistinct = true
        → schema.fits value = true
        → Spells (schema.pack value) (schema.packed value)
  | .natural bits, .natural value, distinct, fits => by
      simp only [Schema.isDistinct, Schema.fits, decide_eq_true_eq] at distinct fits
      have bound : 2 ^ bits ≤ 2 ^ 64 := Nat.pow_le_pow_right (by decide) distinct
      exact packNatural_spells (by omega)
  | .integer bits, .integer value, distinct, fits => by
      simp only [Schema.isDistinct, Schema.fits, Bool.and_eq_true, decide_eq_true_eq] at distinct fits
      have bound : (2 : Int) ^ (bits - 1) ≤ 2 ^ 63 := by
        exact_mod_cast Nat.pow_le_pow_right (by decide : 0 < 2) (by omega : bits - 1 ≤ 63)
      exact packInteger_spells (by omega) (by omega)
  | .boolean, .boolean value, _, _ => by
      cases value <;> exact .of_value rfl
  | .text, .text value, _, fits => packText_spells (of_decide_eq_true fits)
  | .optional _, .absent, _, _ => .of_value rfl
  | .optional inner, .present value, distinct, fits => by
      simp only [Schema.isDistinct, Bool.and_eq_true] at distinct
      exact inner.pack_spells value distinct.2 fits
  | .list inner, .list values, distinct, fits => by
      simp only [Schema.fits, Bool.and_eq_true, decide_eq_true_eq, List.all_eq_true] at fits
      have spells : SpellsAll (values.flatMap inner.pack) (values.map inner.packed) :=
        .flatMap fun value member => inner.pack_spells value distinct (fits.2 value member)
      have whole := packListStart_spells (by simpa using fits.1) spells
      rw [List.length_map] at whole
      exact whole
  | .record fields, .record values, distinct, fits => by
      simp only [Schema.isDistinct, Bool.and_eq_true, decide_eq_true_eq] at distinct
      obtain ⟨count, few, spells⟩ := fields.pack_spells values distinct.2 fits
      rw [Schema.pack, ← count]
      exact packMapStart_spells (by omega) spells

/-- The bytes of the fields of a record spell their entries, of which there are as many as are said
to be written.
-/
theorem Fields.pack_spells
    : ∀ (fields : Fields) (values : List Value),
        fields.isDistinct = true
        → fields.fits values = true
        → (fields.packed values).length = fields.writtenCount values
          ∧ (fields.packed values).length ≤ fields.size
          ∧ SpellsEntries (fields.pack values) (fields.packed values)
  | .nil, values, _, _ => ⟨rfl, Nat.zero_le _, .nil⟩
  | .cons name presence schema rest, [], _, fits => by
      cases presence <;> cases fits
  | .cons name presence schema rest, value :: values, distinct, fits => by
      simp only [Fields.isDistinct, Bool.and_eq_true, decide_eq_true_eq] at distinct
      obtain ⟨⟨⟨short, _⟩, own⟩, others⟩ := distinct
      obtain ⟨⟨rfl, rfl⟩, later⟩ | ⟨written, first, later⟩ := Fields.fits_cons fits
      · obtain ⟨count, few, spells⟩ := rest.pack_spells values others later
        exact ⟨count, Nat.le_succ_of_le few, spells⟩
      · obtain ⟨count, few, spells⟩ := rest.pack_spells values others later
        rw [Fields.packed, Fields.writtenCount, Fields.pack]
        · refine ⟨congrArg (· + 1) count, Nat.succ_le_succ few, ?_⟩
          exact .cons (packText_spells short) (schema.pack_spells value own first) spells
        all_goals exact written

end

-----------------------------------------------------------------------------------------
-- From packed values back to values
-----------------------------------------------------------------------------------------

/-- Whether something may be absent does not matter to what is there. -/
theorem Pack.read_optional {inner : Schema} {pack : Pack} (plain : inner.isOptional = false)
    (present : pack ≠ .null)
    : pack.read (.optional inner) = (pack.read inner).map .present := by
  cases pack with
  | null => exact (present rfl).elim
  | fraction | extension => rfl
  | integer isSigned value =>
      cases inner with
      | natural bits =>
          have own : (Pack.integer isSigned value).read (.natural bits)
              = if 0 ≤ value ∧ value < 2 ^ bits then some (.natural value.toNat) else none := rfl
          have wrapped : (Pack.integer isSigned value).read (.optional (.natural bits))
              = if 0 ≤ value ∧ value < 2 ^ bits then some (.present (.natural value.toNat))
                else none := rfl
          rw [own, wrapped]
          split <;> rfl
      | integer bits =>
          have own : (Pack.integer isSigned value).read (.integer bits)
              = if -(2 ^ (bits - 1)) ≤ value ∧ value < 2 ^ (bits - 1) then some (.integer value)
                else none := rfl
          have wrapped : (Pack.integer isSigned value).read (.optional (.integer bits))
              = if -(2 ^ (bits - 1)) ≤ value ∧ value < 2 ^ (bits - 1) then
                  some (.present (.integer value))
                else none := rfl
          rw [own, wrapped]
          split <;> rfl
      | optional => cases plain
      | boolean | text | list | record | choice => rfl
  | boolean =>
      cases inner <;> first | rfl | cases plain
  | text | bytes | list | map =>
      cases inner <;> first | exact (Option.map_map _ _ _).symm | rfl | cases plain

/-- What is there is not packed as if it were absent. -/
theorem Schema.packed_ne_null
    : ∀ (schema : Schema) (value : Value),
        schema.isOptional = false → schema.fits value = true → schema.packed value ≠ .null
  | .natural _, .natural _, _, _ => nofun
  | .integer _, .integer _, _, _ => nofun
  | .boolean, .boolean _, _, _ => nofun
  | .text, .text _, _, _ => nofun
  | .list _, .list _, _, _ => nofun
  | .record _, .record _, _, _ => nofun

/-- Values that are read one by one are read as a list, by induction over them. -/
theorem Pack.readEach_map {schema : Schema} {packed : Value → Pack} {values : List Value}
    (each : ∀ value ∈ values, (packed value).read schema = some value)
    : Pack.readEach schema (values.map packed) = some values := by
  induction values with
  | nil => rfl
  | cons value values ih =>
      have first := each value List.mem_cons_self
      have later := ih fun other member => each other (List.mem_cons_of_mem value member)
      simp only [List.map_cons, Pack.readEach, first, later]
      rfl

mutual

/-- A value that fits is read from what it is packed as, by induction over the schema. -/
theorem Schema.read_packed
    : ∀ (schema : Schema) (value : Value),
        schema.isDistinct = true
        → schema.fits value = true
        → (schema.packed value).read schema = some value
  | .natural bits, .natural value, _, fits => by
      simp only [Schema.fits, decide_eq_true_eq] at fits
      have bound : (value : Int) < 2 ^ bits := by exact_mod_cast fits
      exact if_pos ⟨Int.natCast_nonneg value, bound⟩
  | .integer bits, .integer value, _, fits => by
      simp only [Schema.fits, Bool.and_eq_true, decide_eq_true_eq] at fits
      exact if_pos fits
  | .boolean, .boolean value, _, _ => rfl
  | .text, .text value, _, _ => by
      exact congrArg (Option.map Value.text) (ofBytes?_bytes value)
  | .optional _, .absent, _, _ => rfl
  | .optional inner, .present value, distinct, fits => by
      simp only [Schema.isDistinct, Bool.and_eq_true, Bool.not_eq_true'] at distinct
      have own := inner.read_packed value distinct.2 fits
      have present := inner.packed_ne_null value distinct.1 fits
      rw [Schema.packed, Pack.read_optional distinct.1 present, own, Option.map_some]
  | .list inner, .list values, distinct, fits => by
      simp only [Schema.fits, Bool.and_eq_true, decide_eq_true_eq, List.all_eq_true] at fits
      have each := fun value member => inner.read_packed value distinct (fits.2 value member)
      exact congrArg (Option.map Value.list) (Pack.readEach_map each)
  | .record fields, .record values, distinct, fits => by
      simp only [Schema.isDistinct, Bool.and_eq_true, decide_eq_true_eq] at distinct
      have all := fields.readFields_packed values fields [] distinct.2 fits (.refl fields)
      simp only [List.nil_append, fields.fill_slots values (fields.admits_of_fits values fits)] at all
      exact congrArg (Option.map Value.record) all

/-- The last fields of a record are read from their entries behind the earlier ones, by induction
over them.  `slots` holds what was read of the earlier fields.
-/
theorem Fields.readFields_packed
    : ∀ (rest : Fields) (values : List Value) (fields : Fields) (slots : List (Option Value)),
        rest.isDistinct = true
        → rest.fits values = true
        → rest.Follows slots.length fields
        → Pack.readFields fields (slots ++ List.replicate rest.size none) (rest.packed values)
          = (fields.fill (slots ++ rest.slots values)).toOption
  | .nil, [], fields, slots, _, _, _ => rfl
  | .cons name presence schema rest, [], _, _, _, fits, _ => by
      cases presence <;> cases fits
  | .cons name presence schema rest, value :: values, fields, slots, distinct, fits, follows => by
      simp only [Fields.isDistinct, Bool.and_eq_true, decide_eq_true_eq] at distinct
      obtain ⟨⟨⟨_, single⟩, distinct⟩, later⟩ := distinct
      have next (slot : Option Value) : rest.Follows (slots ++ [slot]).length fields := by
        rw [List.length_append]
        exact follows.tail single
      obtain ⟨⟨rfl, rfl⟩, others⟩ | ⟨written, own, others⟩ := Fields.fits_cons fits
      · have read := rest.readFields_packed values fields (slots ++ [none]) later others (next none)
        simpa [Fields.packed, Fields.slots, Fields.size, List.replicate_succ] using read
      · have read := rest.readFields_packed values fields (slots ++ [some value]) later others
          (next (some value))
        have first := schema.read_packed value distinct own
        have here := follows.first
        rw [Fields.packed, Fields.slots, Pack.readFields]
        · simpa [Fields.ofKey, ofBytes?_bytes, here, first, Fields.size, List.replicate_succ]
            using read
        all_goals exact written

end

-----------------------------------------------------------------------------------------
-- Formats
-----------------------------------------------------------------------------------------

namespace Format

variable {α : Type}

/-- A value fits a format if it fits its schema. -/
def Fits (format : Format α) (value : α) : Prop := format.schema.fits (format.toValue value) = true

instance (format : Format α) (value : α) : Decidable (format.Fits value) :=
  inferInstanceAs (Decidable (_ = true))

/-- A value that fits an exact format of distinct values is read back from its bytes, whatever
follows them.
-/
theorem unpack?_pack_append {format : Format α} {value : α} (exact : format.IsExact)
    (distinct : format.schema.isDistinct = true)
    (shallow : format.schema.levels < Pack.levelLimit) (fits : format.Fits value)
    (rest : List UInt8)
    : format.unpack? (format.pack value ++ rest) = some value := by
  have spells := format.schema.pack_spells (format.toValue value) distinct fits
  have read := spells.read (2 * (format.pack value ++ rest).length + 2) rest
    (by rw [List.length_append, Format.pack]; omega)
  have back := format.schema.read_packed (format.toValue value) distinct fits
  have within : (format.schema.packed (format.toValue value)).levels < Pack.levelLimit :=
    Nat.lt_of_le_of_lt (format.schema.levels_packed_le _) shallow
  rw [unpack?]
  simp only [Format.pack] at read ⊢
  simp only [read, back, within, exact value, bind, Option.bind, if_true]

end Format

end SyntaxExplorer.Wire
