import Mathlib.Tactic.Ring
import SyntaxExplorer.Proofs.Text.Boundaries
import SyntaxExplorer.Store.Pack

/-! Packed bytes are read back as what they were packed from, whatever follows them.
A reader that may take two steps for each byte never runs out of steps.
-/

namespace SyntaxExplorer.Wire

open Text

-----------------------------------------------------------------------------------------
-- Numbers and runs of bytes
-----------------------------------------------------------------------------------------

/-- The first byte of a number is its highest one. -/
theorem bigEndian_succ (count value : Nat)
    : bigEndian (count + 1) value
      = (value / Nat.pow 256 count % 256).toUInt8 :: bigEndian count value :=
  rfl

/-- A number is read back from its bytes as far as they can hold it, on top of what was read before
them, by induction over the bytes.
-/
theorem takeNumber_bigEndian (count value earlier : Nat) (rest : List UInt8)
    : takeNumber count earlier (bigEndian count value ++ rest)
      = some (earlier * 256 ^ count + value % 256 ^ count, rest) := by
  induction count generalizing earlier with
  | zero =>
      change some (earlier, rest) = _
      simp [Nat.mod_one]
  | succ count ih =>
      have digit : (value / Nat.pow 256 count % 256).toUInt8.toNat = value / 256 ^ count % 256 := by
        rw [Nat.toUInt8_eq, UInt8.toNat_ofNat']
        exact Nat.mod_mod _ 256
      have held : value % 256 ^ (count + 1)
          = value % 256 ^ count + 256 ^ count * (value / 256 ^ count % 256) := by
        rw [Nat.pow_succ, Nat.mod_mul]
      rw [bigEndian_succ, List.cons_append, takeNumber, digit, ih, held]
      congr 2
      ring

/-- A number that its bytes can hold is read back from them. -/
theorem takeNumber_of_lt {count value : Nat} (bound : value < 256 ^ count) (rest : List UInt8)
    : takeNumber count 0 (bigEndian count value ++ rest) = some (value, rest) := by
  rw [takeNumber_bigEndian, Nat.mod_eq_of_lt bound, Nat.zero_mul, Nat.zero_add]

/-- Bytes that were put first are taken first, by induction over them. -/
theorem takeBytes_append (bytes rest : List UInt8)
    : takeBytes bytes.length (bytes ++ rest) = some (bytes, rest) := by
  induction bytes with
  | nil => rfl
  | cons byte bytes ih => rw [List.length_cons, List.cons_append, takeBytes, ih, Option.map_some]

/-- A length that some form can hold is written as a marker that announces it, and as the bytes from
which it is read back.
-/
theorem packLength_announces {forms : List (Nat × Nat)} {length : Nat}
    {announce : Nat → PackStart}
    (starts
      : ∀ form ∈ forms, PackStart.ofByte form.1.toUInt8.toNat = some (announce form.2))
    (held : ∃ form ∈ forms, length < 256 ^ form.2)
    : ∃ marker size bytes,
        packLength forms length = marker :: bytes
        ∧ PackStart.ofByte marker.toNat = some (announce size)
        ∧ ∀ rest, takeNumber size 0 (bytes ++ rest) = some (length, rest) := by
  obtain ⟨form, member, bound⟩ := held
  rw [packLength]
  split
  · rename_i marker count found
    have start := starts (marker, count) (List.mem_of_find?_eq_some found)
    have fits := List.find?_some found
    exact ⟨_, count, _, rfl, start, takeNumber_of_lt (by simpa using fits)⟩
  · rename_i missing
    have tooLong := List.find?_eq_none.mp missing form member
    exact (tooLong (decide_eq_true bound)).elim

-----------------------------------------------------------------------------------------
-- Bytes that spell a value
-----------------------------------------------------------------------------------------

/-- Some bytes spell a value if they are read as it by a reader that may take two steps for each of
them, whatever follows.
-/
structure Spells (bytes : List UInt8) (pack : Pack) : Prop where
  nonempty : 0 < bytes.length
  read
    : ∀ fuel rest,
        2 * bytes.length ≤ fuel → readPack fuel (bytes ++ rest) = some (pack, rest)

/-- Some bytes spell values one after another. -/
def SpellsAll (bytes : List UInt8) (items : List Pack) : Prop :=
  ∀ fuel rest,
    2 * bytes.length < fuel → readPacks fuel items.length (bytes ++ rest) = some (items, rest)

/-- Some bytes spell the entries of a map one after another. -/
def SpellsEntries (bytes : List UInt8) (entries : List (Pack × Pack)) : Prop :=
  ∀ fuel rest,
    2 * bytes.length < fuel
    → readPackEntries fuel entries.length (bytes ++ rest) = some (entries, rest)

/-- A marker and what follows it spell a value if every reader with steps left reads them so. -/
theorem Spells.of_marker {marker : UInt8} {bytes : List UInt8} {pack : Pack}
    (read
      : ∀ fuel rest,
          2 * bytes.length < fuel
          → readPack (fuel + 1) (marker :: (bytes ++ rest)) = some (pack, rest))
    : Spells (marker :: bytes) pack where
  nonempty := Nat.succ_pos _
  read fuel rest enough := by
    rw [List.length_cons] at enough
    cases fuel with
    | zero => omega
    | succ fuel => exact read fuel rest (by omega)

/-- No bytes spell no values. -/
theorem SpellsAll.nil : SpellsAll [] [] := by
  intro fuel rest _
  cases fuel <;> rfl

/-- A value joins those that are spelled behind it. -/
theorem SpellsAll.cons {bytes others : List UInt8} {pack : Pack} {items : List Pack}
    (first : Spells bytes pack) (later : SpellsAll others items)
    : SpellsAll (bytes ++ others) (pack :: items) := by
  intro fuel rest enough
  have nonempty := first.nonempty
  rw [List.length_append] at enough
  cases fuel with
  | zero => omega
  | succ fuel =>
      rw [List.length_cons, List.append_assoc, readPacks, first.read fuel _ (by omega)]
      simp only [bind, Option.bind, later fuel rest (by omega), pure]

/-- No bytes spell no entries. -/
theorem SpellsEntries.nil : SpellsEntries [] [] := by
  intro fuel rest _
  cases fuel <;> rfl

/-- An entry joins those that are spelled behind it. -/
theorem SpellsEntries.cons {keyBytes bytes others : List UInt8} {key pack : Pack}
    {entries : List (Pack × Pack)} (name : Spells keyBytes key) (first : Spells bytes pack)
    (later : SpellsEntries others entries)
    : SpellsEntries (keyBytes ++ bytes ++ others) ((key, pack) :: entries) := by
  intro fuel rest enough
  have named := name.nonempty
  have nonempty := first.nonempty
  rw [List.length_append, List.length_append] at enough
  cases fuel with
  | zero => omega
  | succ fuel =>
      rw [List.length_cons, List.append_assoc, List.append_assoc, readPackEntries,
        name.read fuel _ (by omega)]
      simp only [bind, Option.bind, first.read fuel _ (by omega), later fuel rest (by omega), pure]

-----------------------------------------------------------------------------------------
-- What each kind of value is packed into
-----------------------------------------------------------------------------------------

/-- A byte holds a number below 256. -/
theorem toNat_toUInt8 {value : Nat} (bound : value < 256) : value.toUInt8.toNat = value := by
  rw [Nat.toUInt8_eq, UInt8.toNat_ofNat']
  omega

namespace PackStart

/-- Small numbers are their own markers. -/
theorem ofByte_natural {value : Nat} (small : value < 128)
    : ofByte value = some (.value (.integer false value)) := by
  unfold ofByte
  rw [if_pos (by omega)]

/-- The length of a small map is in its marker. -/
theorem ofByte_map {length : Nat} (small : length < 16)
    : ofByte (0x80 + length) = some (.map length) := by
  unfold ofByte
  rw [if_neg (by omega), if_pos (by omega), Nat.add_sub_cancel_left]

/-- The length of a short list is in its marker. -/
theorem ofByte_list {length : Nat} (small : length < 16)
    : ofByte (0x90 + length) = some (.list length) := by
  unfold ofByte
  rw [if_neg (by omega), if_neg (by omega), if_pos (by omega), Nat.add_sub_cancel_left]

/-- The length of a short text is in its marker. -/
theorem ofByte_text {length : Nat} (small : length < 32)
    : ofByte (0xa0 + length) = some (.text length) := by
  unfold ofByte
  rw [if_neg (by omega), if_neg (by omega), if_neg (by omega), if_pos (by omega),
    Nat.add_sub_cancel_left]

/-- Small negative numbers are their own markers, less 256. -/
theorem ofByte_negative {byte : Nat} (large : 0xe0 ≤ byte)
    : ofByte byte = some (.value (.integer true (byte - 256))) := by
  unfold ofByte
  rw [if_neg (by omega), if_neg (by omega), if_neg (by omega), if_neg (by omega), if_pos large]

end PackStart

/-- A marker that stands for a value spells it. -/
theorem Spells.of_value {marker : UInt8} {pack : Pack}
    (start : PackStart.ofByte marker.toNat = some (.value pack))
    : Spells [marker] pack := by
  refine .of_marker fun fuel rest _ => ?_
  rw [List.nil_append, readPack]
  simp only [start, bind, Option.bind, pure]

/-- The bytes of a number below 2^64 spell it. -/
theorem packNatural_spells {value : Nat} (bound : value < 2 ^ 64)
    : Spells (packNatural value) (.integer false value) := by
  rw [packNatural]
  split
  · rename_i small
    refine .of_value ?_
    rw [toNat_toUInt8 (by omega), PackStart.ofByte_natural small]
  · have starts : ∀ form ∈ [(0xcc, 1), (0xcd, 2), (0xce, 4), (0xcf, 8)],
        PackStart.ofByte form.1.toUInt8.toNat = some (.natural form.2) := by
      simp only [List.mem_cons, List.not_mem_nil, or_false, forall_eq_or_imp, forall_eq]
      exact ⟨rfl, rfl, rfl, rfl⟩
    obtain ⟨marker, size, bytes, written, start, read⟩ :=
      packLength_announces starts ⟨(0xcf, 8), by simp, by simpa using bound⟩
    rw [written]
    refine .of_marker fun fuel rest _ => ?_
    rw [readPack]
    simp only [start, bind, Option.bind, read, pure]

/-- A negative number that its bytes can hold is read back from them. -/
theorem takeSigned_bigEndian {count : Nat} {value : Int} (negative : value < 0)
    (bound : -(Nat.pow 256 count / 2 : Int) ≤ value) (rest : List UInt8)
    : takeSigned count (bigEndian count (value + Nat.pow 256 count).toNat ++ rest)
      = some (value, rest) := by
  have held : (value + Nat.pow 256 count).toNat < 256 ^ count := by
    change _ < Nat.pow 256 count
    omega
  have large : ¬ (value + Nat.pow 256 count).toNat < Nat.pow 256 count / 2 := by omega
  rw [takeSigned, takeNumber_of_lt held, Option.map_some]
  simp only [if_neg large]
  congr 2
  omega

/-- A marker of numbers with a sign and the bytes of a negative one spell it. -/
theorem Spells.of_signed {marker : UInt8} {size : Nat} {value : Int}
    (start : PackStart.ofByte marker.toNat = some (.integer size)) (negative : value < 0)
    (bound : -(Nat.pow 256 size / 2 : Int) ≤ value)
    : Spells (marker :: bigEndian size (value + Nat.pow 256 size).toNat) (.integer true value) := by
  refine .of_marker fun fuel rest _ => ?_
  rw [readPack]
  simp only [start, bind, Option.bind, takeSigned_bigEndian negative bound, pure]

/-- The bytes of a number of 64 bits with a sign spell it. -/
theorem packInteger_spells {value : Int} (lower : -2 ^ 63 ≤ value) (upper : value < 2 ^ 63)
    : Spells (packInteger value) (.integer (decide (value < 0)) value) := by
  by_cases negative : value < 0
  · rw [packInteger, if_neg (by omega), decide_eq_true negative]
    split
    · have byte : (value + 256).toNat.toUInt8.toNat = (value + 256).toNat :=
        toNat_toUInt8 (by omega)
      have same : ((value + 256).toNat : Int) - 256 = value := by omega
      refine .of_value ?_
      rw [byte, PackStart.ofByte_negative (by omega), same]
    · have sized : ∃ size ∈ [1, 2, 4, 8],
          ([1, 2, 4].find? fun count => -(Nat.pow 256 count / 2 : Int) ≤ value).getD 8 = size
          ∧ -(Nat.pow 256 size / 2 : Int) ≤ value := by
        cases found : [1, 2, 4].find? fun count => -(Nat.pow 256 count / 2 : Int) ≤ value with
        | none =>
            have whole : (Nat.pow 256 8 : Int) = 2 ^ 64 := rfl
            exact ⟨8, by simp, rfl, by omega⟩
        | some size =>
            have member := List.mem_of_find?_eq_some found
            have bound := List.find?_some found
            exact ⟨size, List.mem_append_left [8] member, rfl, by simpa using bound⟩
      obtain ⟨size, member, chosen, bound⟩ := sized
      rw [chosen]
      simp only [List.mem_cons, List.not_mem_nil, or_false] at member
      rcases member with rfl | rfl | rfl | rfl <;> exact .of_signed rfl negative bound
  · have natural : packInteger value = packNatural value.toNat := by
      rw [packInteger, if_pos (by omega)]
    have same : (value.toNat : Int) = value := by omega
    have spells : Spells (packNatural value.toNat) (.integer false value.toNat) :=
      packNatural_spells (by omega)
    rw [same] at spells
    rw [natural, decide_eq_false negative]
    exact spells

/-- The bytes of a text of fewer than 2^32 bytes spell it. -/
theorem packText_spells {text : String} (bound : (Text.bytes text).length < 2 ^ 32)
    : Spells (packText text) (.text (Text.bytes text)) := by
  have whole : packText text
      = (if (Text.bytes text).length < 32 then [(0xa0 + (Text.bytes text).length).toUInt8]
          else packLength [(0xd9, 1), (0xda, 2), (0xdb, 4)] (Text.bytes text).length)
        ++ Text.bytes text := rfl
  rw [whole]
  split
  · rename_i small
    rw [List.singleton_append]
    refine .of_marker fun fuel rest _ => ?_
    have start : PackStart.ofByte (0xa0 + (Text.bytes text).length).toUInt8.toNat
        = some (.text (Text.bytes text).length) := by
      rw [toNat_toUInt8 (by omega), PackStart.ofByte_text small]
    rw [readPack]
    simp only [start, bind, Option.bind, takeBytes_append, pure]
  · have starts : ∀ form ∈ [(0xd9, 1), (0xda, 2), (0xdb, 4)],
        PackStart.ofByte form.1.toUInt8.toNat = some (.textOfLength form.2) := by
      simp only [List.mem_cons, List.not_mem_nil, or_false, forall_eq_or_imp, forall_eq]
      exact ⟨rfl, rfl, rfl⟩
    obtain ⟨marker, size, bytes, written, start, read⟩ :=
      packLength_announces starts ⟨(0xdb, 4), by simp, by simpa using bound⟩
    rw [written, List.cons_append]
    refine .of_marker fun fuel rest _ => ?_
    rw [readPack]
    simp only [start, bind, Option.bind, List.append_assoc, read, takeBytes_append, pure]

/-- The bytes of a list of fewer than 2^32 values spell it. -/
theorem packListStart_spells {bytes : List UInt8} {items : List Pack}
    (bound : items.length < 2 ^ 32) (spells : SpellsAll bytes items)
    : Spells (packListStart items.length ++ bytes) (.list items) := by
  rw [packListStart]
  split
  · rename_i small
    have start : PackStart.ofByte (0x90 + items.length).toUInt8.toNat
        = some (.list items.length) := by
      rw [toNat_toUInt8 (by omega), PackStart.ofByte_list small]
    rw [List.singleton_append]
    refine .of_marker fun fuel rest enough => ?_
    rw [readPack]
    simp only [start, bind, Option.bind, spells fuel rest enough, pure]
  · have starts : ∀ form ∈ [(0xdc, 2), (0xdd, 4)],
        PackStart.ofByte form.1.toUInt8.toNat = some (.listOfLength form.2) := by
      simp only [List.mem_cons, List.not_mem_nil, or_false, forall_eq_or_imp, forall_eq]
      exact ⟨rfl, rfl⟩
    obtain ⟨marker, size, counted, written, start, read⟩ :=
      packLength_announces starts ⟨(0xdd, 4), by simp, by simpa using bound⟩
    rw [written, List.cons_append]
    refine .of_marker fun fuel rest enough => ?_
    rw [List.length_append] at enough
    rw [readPack]
    simp only [start, bind, Option.bind, List.append_assoc, read, spells fuel rest (by omega),
      pure]

/-- The bytes of a map of fewer than 2^32 entries spell it. -/
theorem packMapStart_spells {bytes : List UInt8} {entries : List (Pack × Pack)}
    (bound : entries.length < 2 ^ 32) (spells : SpellsEntries bytes entries)
    : Spells (packMapStart entries.length ++ bytes) (.map entries) := by
  rw [packMapStart]
  split
  · rename_i small
    have start : PackStart.ofByte (0x80 + entries.length).toUInt8.toNat
        = some (.map entries.length) := by
      rw [toNat_toUInt8 (by omega), PackStart.ofByte_map small]
    rw [List.singleton_append]
    refine .of_marker fun fuel rest enough => ?_
    rw [readPack]
    simp only [start, bind, Option.bind, spells fuel rest enough, pure]
  · have starts : ∀ form ∈ [(0xde, 2), (0xdf, 4)],
        PackStart.ofByte form.1.toUInt8.toNat = some (.mapOfLength form.2) := by
      simp only [List.mem_cons, List.not_mem_nil, or_false, forall_eq_or_imp, forall_eq]
      exact ⟨rfl, rfl⟩
    obtain ⟨marker, size, counted, written, start, read⟩ :=
      packLength_announces starts ⟨(0xdf, 4), by simp, by simpa using bound⟩
    rw [written, List.cons_append]
    refine .of_marker fun fuel rest enough => ?_
    rw [List.length_append] at enough
    rw [readPack]
    simp only [start, bind, Option.bind, List.append_assoc, read, spells fuel rest (by omega),
      pure]

end SyntaxExplorer.Wire
