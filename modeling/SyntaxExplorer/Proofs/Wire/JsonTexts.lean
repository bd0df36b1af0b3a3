import Mathlib.Tactic.IntervalCases
import SyntaxExplorer.Wire.Json

/-! JSON values are read back from their texts.  Quoted texts and numbers come first; a value is then
read from what is written of it, whatever follows, as long as no number goes on behind it.
-/

namespace SyntaxExplorer.Wire

-----------------------------------------------------------------------------------------
-- Quoted texts
-----------------------------------------------------------------------------------------

/-- A hexadecimal digit has its value. -/
theorem hexValue?_hexDigit : ∀ value < 16, hexValue? (hexDigit value) = some value := by decide

/-- A number that is no surrogate is a character, whatever pieces follow. -/
theorem joinPieces_unit {value : Nat} (small : value < 0xD800) (pieces : List TextPiece)
    : joinPieces (.unit value :: pieces) = (joinPieces pieces).map (Char.ofNat value :: ·) := by
  have first : ¬ (0xD800 ≤ value ∧ value < 0xDC00) := by omega
  have second : ¬ (0xDC00 ≤ value ∧ value < 0xE000) := by omega
  have either : ¬ (0xD800 ≤ value ∧ value < 0xE000) := by omega
  match pieces with
  | [] | .character _ :: _ => simp only [joinPieces, if_neg either]
  | .unit low :: rest => simp only [joinPieces, if_neg first, if_neg second]

/-- An escaped character is read as one piece, which stands for the character. -/
theorem escaped_reads (c : Char)
    : ∃ piece,
        (∀ chars,
          readPieces (escaped c ++ chars)
          = (readPieces chars).map fun (pieces, rest) => (piece :: pieces, rest))
        ∧ ∀ pieces, joinPieces (piece :: pieces) = (joinPieces pieces).map (c :: ·) := by
  unfold escaped
  split
  · exact ⟨.character '"', fun _ => rfl, fun _ => rfl⟩
  · exact ⟨.character '\\', fun _ => rfl, fun _ => rfl⟩
  · exact ⟨.character '\x08', fun _ => rfl, fun _ => rfl⟩
  · exact ⟨.character '\x0C', fun _ => rfl, fun _ => rfl⟩
  · exact ⟨.character '\n', fun _ => rfl, fun _ => rfl⟩
  · exact ⟨.character '\r', fun _ => rfl, fun _ => rfl⟩
  · exact ⟨.character '\t', fun _ => rfl, fun _ => rfl⟩
  · rename_i quote backslash _ _ _ _ _
    split
    · rename_i control
      refine ⟨.unit c.toNat, fun chars => ?_, fun pieces => ?_⟩
      · have high := hexValue?_hexDigit (c.toNat / 16) (by omega)
        have low := hexValue?_hexDigit (c.toNat % 16) (by omega)
        have zero : hexValue? '0' = some 0 := by decide
        have whole : ((0 * 16 + 0) * 16 + c.toNat / 16) * 16 + c.toNat % 16 = c.toNat := by omega
        simp only [List.cons_append, List.nil_append, readPieces, zero, high, low, whole]
      · rw [joinPieces_unit (by omega), Char.ofNat_toNat]
    · rename_i printable
      refine ⟨.character c, fun chars => ?_, fun _ => rfl⟩
      rw [List.singleton_append, readPieces, if_neg backslash, if_neg printable]
      · exact quote
      · rintro _ _ _ _ _ rfl
        exact (backslash rfl).elim
      · rintro _ _ rfl
        exact (backslash rfl).elim

/-- Characters are read back from what is written of them, by induction over them. -/
theorem readPieces_escaped (chars rest : List Char)
    : ∃ pieces,
        readPieces (chars.flatMap escaped ++ '"' :: rest) = .ok (pieces, rest)
        ∧ joinPieces pieces = some chars := by
  induction chars with
  | nil => exact ⟨[], rfl, rfl⟩
  | cons c chars ih =>
      obtain ⟨piece, reads, joins⟩ := escaped_reads c
      obtain ⟨pieces, read, joined⟩ := ih
      refine ⟨piece :: pieces, ?_, ?_⟩
      · rw [List.flatMap_cons, List.append_assoc, reads, read]
        rfl
      · rw [joins, joined]
        rfl

/-- A text is read back from behind its opening quote. -/
theorem readText_quoted (text : String) (rest : List Char)
    : readText (text.toList.flatMap escaped ++ '"' :: rest) = .ok (some text, rest) := by
  obtain ⟨pieces, read, joined⟩ := readPieces_escaped text.toList rest
  rw [readText, read]
  simp only [Except.map, joined, Option.map_some, String.ofList_toList]

-----------------------------------------------------------------------------------------
-- Numbers
-----------------------------------------------------------------------------------------

/-- No number goes on with what follows. -/
def EndsNumber (rest : List Char) : Prop :=
  ∀ c, rest.head? = some c → c.isDigit = false ∧ c ≠ '.' ∧ c ≠ 'e' ∧ c ≠ 'E'

/-- The digits of a number have its value. -/
theorem digitsValue_toDigits (value : Nat) : digitsValue (Nat.toDigits 10 value) = value := by
  have whole := @Nat.ofDigitChars_toDigits 10 value (by decide) (by decide)
  simpa only [Nat.ofDigitChars, digitsValue, Nat.mul_comm 10] using whole

/-- Only the number zero begins with a zero, by induction over the digits. -/
theorem head?_toDigits_ne_zero (value : Nat) (positive : 0 < value)
    : (Nat.toDigits 10 value).head? ≠ some '0' := by
  induction value using Nat.strongRecOn with
  | ind value ih =>
      by_cases small : value < 10
      · rw [Nat.toDigits_of_lt_base small]
        interval_cases value <;> decide
      · have first := ih (value / 10) (by omega) (by omega)
        rw [Nat.toDigits_of_base_le (by decide) (by omega), List.head?_append]
        cases digits : Nat.toDigits 10 (value / 10) with
        | nil => exact (Nat.toDigits_ne_nil digits).elim
        | cons => rwa [digits] at first

/-- The digits of a number are taken whole where it ends. -/
theorem takeWhile_toDigits {rest : List Char} (ends : EndsNumber rest) (value : Nat)
    : (Nat.toDigits 10 value ++ rest).takeWhile Char.isDigit = Nat.toDigits 10 value
      ∧ (Nat.toDigits 10 value ++ rest).dropWhile Char.isDigit = rest := by
  have digits : ∀ c ∈ Nat.toDigits 10 value, c.isDigit = true :=
    fun _ member => Nat.isDigit_of_mem_toDigits (by decide) (by decide) member
  rw [List.takeWhile_append_of_pos digits, List.dropWhile_append_of_pos digits]
  cases rest with
  | nil => simp
  | cons c rest =>
      have other := (ends c rfl).1
      simp [other]

/-- Where a number ends it has no exponent. -/
theorem readExponent_of_ends {rest : List Char} (ends : EndsNumber rest)
    : readExponent rest = .ok (none, rest) := by
  cases rest with
  | nil => rfl
  | cons c rest =>
      obtain ⟨_, _, small, great⟩ := ends c rfl
      simp only [readExponent, if_neg (not_or.mpr ⟨small, great⟩)]

/-- A number is read back from its digits where it ends. -/
theorem readNumber_toDigits {rest : List Char} (ends : EndsNumber rest) (isNegative : Bool)
    (value : Nat)
    : readNumber isNegative (Nat.toDigits 10 value ++ rest)
      = .ok (integerValue isNegative (Nat.toDigits 10 value), rest) := by
  obtain ⟨taken, dropped⟩ := takeWhile_toDigits ends value
  have lead : ∀ second others, Nat.toDigits 10 value ≠ '0' :: second :: others := by
    intro second others digits
    rcases Nat.eq_zero_or_pos value with rfl | positive
    · rw [Nat.toDigits_zero] at digits
      cases digits
    · have first := head?_toDigits_ne_zero value positive
      rw [digits] at first
      exact first rfl
  have point : ∀ others, rest ≠ '.' :: others := by
    rintro others rfl
    exact (ends '.' rfl).2.1 rfl
  rw [readNumber, taken, dropped]
  simp only
  split
  · exact (Nat.toDigits_ne_nil ‹Nat.toDigits 10 value = []›).elim
  · exact (Nat.toDigits_ne_nil ‹Nat.toDigits 10 value = []›).elim
  · rename_i digits
    exact (lead _ _ digits).elim
  · exact (point _ rfl).elim
  · rw [readExponent_of_ends ends]
    rfl

-----------------------------------------------------------------------------------------
-- Values
-----------------------------------------------------------------------------------------

mutual

/-- A value can be written: it has no faults, and its numbers have 64 bits, with a sign or without. -/
def Json.IsPlain : Json → Prop
  | .null | .boolean _ | .text _ => True
  | .integer value => -(2 ^ 63) ≤ value ∧ value < 2 ^ 64
  | .fraction | .spoiled | .broken _ => False
  | .list items => items.IsPlain
  | .object entries => entries.IsPlain

def JsonItems.IsPlain : JsonItems → Prop
  | .done ending => ending = .closed
  | .more first rest => first.IsPlain ∧ rest.IsPlain

def JsonEntries.IsPlain : JsonEntries → Prop
  | .done ending => ending = .closed
  | .more _ value rest => value.IsPlain ∧ rest.IsPlain

end

/-- Space is skipped only where there is some. -/
theorem skipSpace_of_not_space {c : Char} (other : isJsonSpace c = false) (rest : List Char)
    : skipSpace (c :: rest) = c :: rest := by
  rw [skipSpace, List.dropWhile_cons_of_neg (by simp [other])]

/-- A digit begins no other kind of value, and ends none. -/
theorem digit_ne {c : Char} (digit : c.isDigit = true)
    : isJsonSpace c = false ∧ c ≠ '"' ∧ c ≠ '[' ∧ c ≠ '\x7b' ∧ c ≠ 't' ∧ c ≠ 'f' ∧ c ≠ 'n' ∧ c ≠ ']'
      ∧ c ≠ '-' := by
  refine ⟨?_, ?_, ?_, ?_, ?_, ?_, ?_, ?_, ?_⟩
  · simp only [isJsonSpace, Bool.or_eq_false_iff, beq_eq_false_iff_ne]
    refine ⟨⟨⟨?_, ?_⟩, ?_⟩, ?_⟩ <;> (rintro rfl; cases digit)
  all_goals
    rintro rfl
    cases digit

/-- A number is read back from its text where it ends. -/
theorem readValue_natural {rest : List Char} (ends : EndsNumber rest) {value fuel : Nat}
    (bound : value < 2 ^ 64)
    : readValue (fuel + 1) (Nat.toDigits 10 value ++ rest) = (.integer value, some rest) := by
  have number := readNumber_toDigits ends false value
  cases digits : Nat.toDigits 10 value with
  | nil => exact (Nat.toDigits_ne_nil digits).elim
  | cons c others =>
      have digit : c.isDigit = true :=
        Nat.isDigit_of_mem_toDigits (by decide) (by decide) (digits ▸ List.mem_cons_self)
      obtain ⟨space, quote, bracket, brace, t, f, n, _, minus⟩ := digit_ne digit
      have value_eq : integerValue false (c :: others) = .integer value := by
        rw [← digits, integerValue, digitsValue_toDigits]
        exact if_pos bound
      rw [digits, value_eq] at number
      rw [List.cons_append] at number ⊢
      -- What the digit is not decides the match.
      simp only [readValue, skipSpace_of_not_space space, minus, digit, or_true, if_true, if_false,
        decide_false, number]

/-- A sign begins a number. -/
theorem readValue_minus (fuel : Nat) (chars : List Char)
    : readValue (fuel + 1) ('-' :: chars)
      = match readNumber true chars with
        | .ok (value, rest) => (value, some rest)
        | .error fault => (.broken fault, none) :=
  rfl

/-- The text of an integer is its digits, behind a sign if it is negative. -/
theorem toList_toString (value : Int)
    : (toString value).toList
      = if 0 ≤ value then Nat.toDigits 10 value.toNat else '-' :: Nat.toDigits 10 (-value).toNat := by
  cases value with
  | ofNat value => exact Nat.toList_repr
  | negSucc value =>
      change ("-" ++ Nat.repr (value + 1)).toList = '-' :: Nat.toDigits 10 (value + 1)
      rw [String.toList_append, Nat.toList_repr]
      rfl

/-- An integer is read back from its text where it ends. -/
theorem readValue_integer {rest : List Char} (ends : EndsNumber rest) {value : Int} (fuel : Nat)
    (lower : -(2 ^ 63) ≤ value) (upper : value < 2 ^ 64)
    : readValue (fuel + 1) ((toString value).toList ++ rest) = (.integer value, some rest) := by
  rw [toList_toString]
  split
  · rename_i natural
    rw [readValue_natural ends (by omega), Int.toNat_of_nonneg natural]
  · rename_i negative
    have value_eq : integerValue true (Nat.toDigits 10 (-value).toNat) = .integer value := by
      have range : 0 < (-value).toNat ∧ (-value).toNat ≤ Nat.pow 2 (integerBits - 1) := by
        have bits : Nat.pow 2 (integerBits - 1) = 2 ^ 63 := rfl
        omega
      rw [integerValue, digitsValue_toDigits]
      simp only [if_true, if_pos range]
      congr 1
      omega
    rw [List.cons_append, readValue_minus, readNumber_toDigits ends, value_eq]

/-- What is written of a value begins with no space and does not end a list. -/
theorem Json.write_head {json : Json} (plain : json.IsPlain)
    : ∃ c tail, json.write = c :: tail ∧ isJsonSpace c = false ∧ c ≠ ']' := by
  cases json with
  | null => exact ⟨'n', _, rfl, rfl, by decide⟩
  | boolean value =>
      cases value
      · exact ⟨'f', _, rfl, rfl, by decide⟩
      · exact ⟨'t', _, rfl, rfl, by decide⟩
  | integer value =>
      rw [Json.write, toList_toString]
      split
      · cases digits : Nat.toDigits 10 value.toNat with
        | nil => exact (Nat.toDigits_ne_nil digits).elim
        | cons c tail =>
            have digit : c.isDigit = true :=
              Nat.isDigit_of_mem_toDigits (by decide) (by decide) (digits ▸ List.mem_cons_self)
            obtain ⟨space, _, _, _, _, _, _, bracket, _⟩ := digit_ne digit
            exact ⟨c, tail, rfl, space, bracket⟩
      · exact ⟨'-', _, rfl, rfl, by decide⟩
  | text value => exact ⟨'"', _, rfl, rfl, by decide⟩
  | list items => exact ⟨'[', _, rfl, rfl, by decide⟩
  | object entries => exact ⟨'\x7b', _, rfl, rfl, by decide⟩
  | fraction | spoiled | broken => exact plain.elim

/-- What follows the first values of a list or an object ends a number. -/
theorem endsNumber_of_mark {c : Char} (mark : c = ',' ∨ c = ']' ∨ c = '\x7d') (rest : List Char)
    : EndsNumber (c :: rest) := by
  rintro other ⟨⟩
  rcases mark with rfl | rfl | rfl <;> decide

/-- Behind a comma a list goes on with a value. -/
theorem readItems_comma (fuel : Nat) (chars : List Char)
    : readItems (fuel + 1) false (',' :: chars)
      = match skipSpace chars with
        | [] => (.done (.dangling .truncated), none)
        | ']' :: _ => (.done (.dangling .malformed), none)
        | rest => match readValue fuel rest with
          | (value, some rest) =>
              (.more value (readItems fuel false rest).1, (readItems fuel false rest).2)
          | (value, none) => (.more value (.done .closed), none) :=
  rfl

/-- A value of a list is read with the rest of the list behind it. -/
theorem readItems_more {first : Json} {fuel : Nat} {text : List Char} (plain : first.IsPlain)
    (read : readValue fuel (first.write ++ text) = (first, some text)) (isFirst : Bool)
    : readItems (fuel + 1) isFirst ((if isFirst then [] else [',']) ++ first.write ++ text)
      = (.more first (readItems fuel false text).1, (readItems fuel false text).2) := by
  obtain ⟨c, tail, written, space, bracket⟩ := first.write_head plain
  rw [written, List.cons_append] at read
  cases isFirst with
  | true =>
      rw [if_pos rfl, List.nil_append, written, List.cons_append]
      simp only [readItems, skipSpace_of_not_space space, if_true, read]
  | false =>
      rw [if_neg (by decide), written, List.singleton_append, List.cons_append, List.cons_append,
        readItems_comma, skipSpace_of_not_space space]
      split
      · rename_i none
        cases none
      · rename_i closed
        cases closed
        exact (bracket rfl).elim
      · rw [read]

/-- The rest of an object from behind the opening quote of a key.  A fault in the key ends it. -/
def readEntry (fuel : Nat) (ending : Fault → Ending) (chars : List Char)
    : JsonEntries × Option (List Char) :=
  match readText chars with
  | .error fault => (.done (ending fault), none)
  | .ok (none, _) => (.done (ending .malformed), none)
  | .ok (some key, rest) => match skipSpace rest with
    | [] => (.more key (.broken .truncated) (.done .closed), none)
    | ':' :: rest => match readValue fuel rest with
      | (value, some rest) =>
          (.more key value (readEntries fuel false rest).1, (readEntries fuel false rest).2)
      | (value, none) => (.more key value (.done .closed), none)
    | _ => (.more key (.broken .malformed) (.done .closed), none)

/-- An object begins with a key. -/
theorem readEntries_quote (fuel : Nat) (chars : List Char)
    : readEntries (fuel + 1) true ('"' :: chars) = readEntry fuel .unseparated chars :=
  rfl

/-- Behind a comma an object goes on with a key. -/
theorem readEntries_comma (fuel : Nat) (chars : List Char)
    : readEntries (fuel + 1) false (',' :: '"' :: chars) = readEntry fuel .dangling chars :=
  rfl

/-- An entry is its key and the value behind the colon. -/
theorem readEntry_of_read {key : String} {value : Json} {fuel : Nat} {text : List Char}
    (read : readValue fuel (value.write ++ text) = (value, some text)) (ending : Fault → Ending)
    : readEntry fuel ending (key.toList.flatMap escaped ++ '"' :: ':' :: (value.write ++ text))
      = (.more key value (readEntries fuel false text).1, (readEntries fuel false text).2) := by
  have colon : skipSpace (':' :: (value.write ++ text)) = ':' :: (value.write ++ text) := rfl
  simp only [readEntry, readText_quoted, colon, read]

/-- An entry of an object is read with the rest of the object behind it. -/
theorem readEntries_more {value : Json} {fuel : Nat} {text : List Char}
    (read : readValue fuel (value.write ++ text) = (value, some text)) (isFirst : Bool)
    (key : String)
    : readEntries (fuel + 1) isFirst
        ((if isFirst then [] else [',']) ++ quoted key ++ ':' :: value.write ++ text)
      = (.more key value (readEntries fuel false text).1, (readEntries fuel false text).2) := by
  cases isFirst with
  | true =>
      have step := readEntries_quote fuel
        (key.toList.flatMap escaped ++ '"' :: ':' :: (value.write ++ text))
      rw [readEntry_of_read read] at step
      simpa [quoted] using step
  | false =>
      have step := readEntries_comma fuel
        (key.toList.flatMap escaped ++ '"' :: ':' :: (value.write ++ text))
      rw [readEntry_of_read read] at step
      simpa [quoted] using step

/-- Something is written of each value. -/
theorem Json.length_write_pos {json : Json} (plain : json.IsPlain) : 0 < json.write.length := by
  obtain ⟨c, tail, written, _⟩ := json.write_head plain
  rw [written]
  exact Nat.succ_pos _

/-- Something is written of each rest of a list, and ends a number. -/
theorem JsonItems.write_ends (items : JsonItems) (rest : List Char)
    : 0 < (items.write false).length ∧ EndsNumber (items.write false ++ rest) := by
  cases items with
  | done => exact ⟨Nat.succ_pos _, endsNumber_of_mark (.inr (.inl rfl)) _⟩
  | more => exact ⟨Nat.succ_pos _, endsNumber_of_mark (.inl rfl) _⟩

/-- Something is written of each rest of an object, and ends a number. -/
theorem JsonEntries.write_ends (entries : JsonEntries) (rest : List Char)
    : 0 < (entries.write false).length ∧ EndsNumber (entries.write false ++ rest) := by
  cases entries with
  | done => exact ⟨Nat.succ_pos _, endsNumber_of_mark (.inr (.inr rfl)) _⟩
  | more => exact ⟨Nat.succ_pos _, endsNumber_of_mark (.inl rfl) _⟩

mutual

/-- A value is read back from its text where the text ends a number, by induction over the value.  Two
steps for each character are enough.
-/
theorem Json.read_write
    : ∀ (json : Json) (rest : List Char) (fuel : Nat),
        json.IsPlain
        → EndsNumber rest
        → 2 * json.write.length ≤ fuel
        → readValue fuel (json.write ++ rest) = (json, some rest)
  | json, rest, 0, plain, _, enough => by
      have some := json.length_write_pos plain
      omega
  | .null, rest, fuel + 1, _, _, _ => rfl
  | .boolean value, rest, fuel + 1, _, _, _ => by
      cases value <;> rfl
  | .integer value, rest, fuel + 1, plain, ends, _ => readValue_integer ends fuel plain.1 plain.2
  | .text value, rest, fuel + 1, _, _, _ => by
      have step (chars : List Char) : readValue (fuel + 1) ('"' :: chars)
          = match readText chars with
            | .ok (some text, rest) => (.text text, some rest)
            | .ok (none, rest) => (.spoiled, some rest)
            | .error fault => (.broken fault, none) := rfl
      rw [Json.write, quoted, List.cons_append, List.cons_append, List.append_assoc, step,
        List.singleton_append, readText_quoted]
  | .list items, rest, fuel + 1, plain, _, enough => by
      have step (chars : List Char) : readValue (fuel + 1) ('[' :: chars)
          = (.list (readItems fuel true chars).1, (readItems fuel true chars).2) := rfl
      rw [Json.write, List.length_cons] at enough
      rw [Json.write, List.cons_append, step,
        items.read_write true rest fuel plain (by omega)]
  | .object entries, rest, fuel + 1, plain, _, enough => by
      have step (chars : List Char) : readValue (fuel + 1) ('\x7b' :: chars)
          = (.object (readEntries fuel true chars).1, (readEntries fuel true chars).2) := rfl
      rw [Json.write, List.length_cons] at enough
      rw [Json.write, List.cons_append, step,
        entries.read_write true rest fuel plain (by omega)]

/-- The values of a list are read back from their texts. -/
theorem JsonItems.read_write
    : ∀ (items : JsonItems) (isFirst : Bool) (rest : List Char) (fuel : Nat),
        items.IsPlain
        → 2 * (items.write isFirst).length ≤ fuel
        → readItems fuel isFirst (items.write isFirst ++ rest) = (items, some rest)
  | .done ending, isFirst, rest, fuel, plain, enough => by
      cases plain
      cases fuel with
      | zero => cases enough
      | succ fuel => rfl
  | .more first items, isFirst, rest, fuel, plain, enough => by
      have own := first.length_write_pos plain.1
      obtain ⟨others, ends⟩ := items.write_ends rest
      simp only [JsonItems.write, List.length_append] at enough
      cases fuel with
      | zero => omega
      | succ fuel =>
          have read := first.read_write (items.write false ++ rest) fuel plain.1 ends (by omega)
          have later := items.read_write false rest fuel plain.2 (by omega)
          have whole := readItems_more plain.1 read isFirst
          rw [later] at whole
          simpa only [JsonItems.write, List.append_assoc] using whole

/-- The entries of an object are read back from their texts. -/
theorem JsonEntries.read_write
    : ∀ (entries : JsonEntries) (isFirst : Bool) (rest : List Char) (fuel : Nat),
        entries.IsPlain
        → 2 * (entries.write isFirst).length ≤ fuel
        → readEntries fuel isFirst (entries.write isFirst ++ rest) = (entries, some rest)
  | .done ending, isFirst, rest, fuel, plain, enough => by
      cases plain
      cases fuel with
      | zero => cases enough
      | succ fuel => rfl
  | .more key value entries, isFirst, rest, fuel, plain, enough => by
      have own := value.length_write_pos plain.1
      obtain ⟨others, ends⟩ := entries.write_ends rest
      simp only [JsonEntries.write, List.length_append, List.length_cons] at enough
      cases fuel with
      | zero => omega
      | succ fuel =>
          have read := value.read_write (entries.write false ++ rest) fuel plain.1 ends (by omega)
          have later := entries.read_write false rest fuel plain.2 (by omega)
          have whole := readEntries_more read isFirst key
          rw [later] at whole
          simpa only [JsonEntries.write, List.append_assoc, List.cons_append] using whole

end

/-- A value that can be written is parsed from its text, and nothing is left. -/
theorem Json.parse_render {json : Json} (plain : json.IsPlain)
    : Json.parse json.render = (json, some []) := by
  have read := json.read_write [] (2 * json.render.length + 2) plain nofun ?_
  · rw [Json.parse, Json.render, String.toList_ofList]
    simpa only [List.append_nil, Json.render] using read
  · rw [Json.render, String.length_ofList]
    omega

end SyntaxExplorer.Wire
