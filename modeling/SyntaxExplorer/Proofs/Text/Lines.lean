import SyntaxExplorer.Proofs.Text.Rows

/-! The rows of a line index are the lines of its text.  A line is what stands between two line
feeds, or between one and an end of the text, in characters as in bytes.
-/

namespace SyntaxExplorer

namespace Text

/-- The byte that ends lines. -/
def lineFeed : UInt8 := 10

/-- The line of a row of some characters, with what stands before and after it. -/
structure IsLine (chars : List Char) (row : Nat) (front line back : List Char) : Prop where
  whole : chars = front ++ line ++ back
  row : front.count '\n' = row
  starts : ∀ c, front.getLast? = some c → c = '\n'
  single : '\n' ∉ line
  ends : ∀ c, back.head? = some c → c = '\n'

-----------------------------------------------------------------------------------------
-- Line feeds among characters and among bytes
-----------------------------------------------------------------------------------------

/-- A byte is a line feed exactly if its number is. -/
theorem lineFeed_eq_ofNat_iff {number : Nat}
    : lineFeed = UInt8.ofNat number ↔ number % 256 = 10 := by
  rw [lineFeed, ← UInt8.toNat_inj, UInt8.toNat_ofNat']
  exact eq_comm

/-- A character has the byte of a line feed exactly if it is one: the bytes of longer characters are
greater.
-/
theorem lineFeed_mem_encode_iff {c : Char}
    : lineFeed ∈ String.utf8EncodeChar c ↔ c = '\n' := by
  constructor
  · intro within
    have code : c.val.toNat = 10 := by
      simp only [String.utf8EncodeChar] at within
      repeat' split at within
      all_goals
        simp only [List.mem_cons, List.not_mem_nil, or_false, lineFeed_eq_ofNat_iff] at within
        omega
    exact Char.ext (UInt32.toNat_inj.mp code)
  · rintro rfl
    decide

/-- The bytes of characters have as many line feeds as they have, by induction over them. -/
theorem count_lineFeed_encode (chars : List Char)
    : (chars.flatMap String.utf8EncodeChar).count lineFeed = chars.count '\n' := by
  induction chars with
  | nil => rfl
  | cons c rest ih =>
      rw [List.flatMap_cons, List.count_append, ih, List.count_cons, Nat.add_comm]
      congr 1
      by_cases feed : c = '\n'
      · subst feed
        decide
      · rw [List.count_eq_zero.mpr (mt lineFeed_mem_encode_iff.mp feed)]
        simp [feed]

/-- A row of bytes lies between line feeds: as many are before it as its number says, the last of
them right before it starts, and the next one, if any, where it ends.
-/
structure IsRow (source : List UInt8) (row start stop : Nat) : Prop where
  row : (source.take start).count lineFeed = row
  starts : start = 0 ∨ source[start - 1]? = some lineFeed
  single : lineFeed ∉ (source.take stop).drop start
  ends : stop = source.length ∨ source[stop]? = some lineFeed

/-- Before an offset in a row there are as many line feeds as before the row. -/
theorem IsRow.count_take {source : List UInt8} {row start stop offset : Nat}
    (isRow : IsRow source row start stop) (after : start ≤ offset) (before : offset ≤ stop)
    : (source.take offset).count lineFeed = row := by
  have none : ((source.take offset).drop start).count lineFeed = 0 := by
    refine List.count_eq_zero.mpr fun there => isRow.single ?_
    rw [List.drop_take] at there ⊢
    have shorter : offset - start ≤ stop - start := Nat.sub_le_sub_right before start
    exact (List.take_sublist_take_left shorter).mem there
  rw [← List.take_append_drop start (source.take offset), List.count_append, none,
    List.take_take, Nat.min_eq_left after, isRow.row, Nat.add_zero]

/-- The bytes of a text in which a line stands. -/
theorem IsLine.bytes_eq {text : String} {row : Nat} {front line back : List Char}
    (isLine : IsLine text.toList row front line back)
    : bytes text
      = front.flatMap String.utf8EncodeChar
        ++ (line.flatMap String.utf8EncodeChar ++ back.flatMap String.utf8EncodeChar) := by
  rw [bytes_eq_flatMap, isLine.whole]
  simp only [List.flatMap_append, List.append_assoc]

/-- The bytes of a line are those of its row. -/
theorem IsLine.isRow {text : String} {row : Nat} {front line back : List Char}
    (isLine : IsLine text.toList row front line back)
    : IsRow (bytes text) row (byteLength front) (byteLength (front ++ line)) := by
  have feed : String.utf8EncodeChar '\n' = [lineFeed] := by decide
  have stop : byteLength (front ++ line)
      = (front.flatMap String.utf8EncodeChar ++ line.flatMap String.utf8EncodeChar).length := by
    rw [List.length_append, length_encode, length_encode, byteLength_append]
  constructor
  · rw [isLine.bytes_eq, List.take_left' (length_encode front), count_lineFeed_encode, isLine.row]
  · rcases List.eq_nil_or_concat front with rfl | ⟨earlier, last, rfl⟩
    · exact .inl rfl
    · obtain rfl : last = '\n' := isLine.starts last (by simp)
      have place : byteLength (earlier.concat '\n') - 1
          = (earlier.flatMap String.utf8EncodeChar).length := by
        rw [length_encode, List.concat_eq_append, byteLength_append, byteLength, utf8Size_lineFeed]
        rfl
      refine .inr ?_
      rw [place, isLine.bytes_eq]
      simp [feed]
  · rw [isLine.bytes_eq, ← List.append_assoc, stop, List.take_left,
      List.drop_left' (length_encode front)]
    refine List.count_eq_zero.mp ?_
    rw [count_lineFeed_encode]
    exact List.count_eq_zero.mpr isLine.single
  · cases back with
    | nil =>
        refine .inl ?_
        rw [isLine.bytes_eq, stop]
        simp
    | cons c rest =>
        obtain rfl : c = '\n' := isLine.ends c rfl
        refine .inr ?_
        rw [isLine.bytes_eq, ← List.append_assoc, stop, List.getElem?_append_right (Nat.le_refl _)]
        simp [feed]

-----------------------------------------------------------------------------------------
-- Lines and rows
-----------------------------------------------------------------------------------------

/-- There is a line for each row up to the number of line feeds, by induction over the characters:
a line feed ends the first line, any other character goes in front of it.
-/
theorem exists_isLine {chars : List Char} {row : Nat} (within : row ≤ chars.count '\n')
    : ∃ front line back, IsLine chars row front line back := by
  induction chars generalizing row with
  | nil =>
      obtain rfl : row = 0 := Nat.le_zero.mp within
      exact ⟨[], [], [], rfl, rfl, by simp, by simp, by simp⟩
  | cons c rest ih =>
      by_cases feed : c = '\n'
      · subst feed
        cases row with
        | zero => exact ⟨[], [], '\n' :: rest, rfl, rfl, by simp, by simp, by simp⟩
        | succ row =>
            rw [List.count_cons_self] at within
            obtain ⟨front, line, back, found⟩ := ih (Nat.le_of_succ_le_succ within)
            refine ⟨'\n' :: front, line, back, by rw [found.whole]; rfl, ?_, ?_, found.single,
              found.ends⟩
            · rw [List.count_cons_self, found.row]
            · intro last isLast
              cases front with
              | nil => exact (Option.some.inj isLast).symm
              | cons first others => exact found.starts last (by simpa using isLast)
      · rw [List.count_cons_of_ne feed] at within
        obtain ⟨front, line, back, found⟩ := ih within
        cases front with
        | nil =>
            refine ⟨[], c :: line, back, by rw [found.whole]; rfl, found.row, by simp, ?_, found.ends⟩
            intro there
            rcases List.mem_cons.mp there with same | later
            · exact feed same.symm
            · exact found.single later
        | cons first others =>
            refine ⟨c :: first :: others, line, back, by rw [found.whole]; rfl, ?_, ?_, found.single,
              found.ends⟩
            · rw [List.count_cons_of_ne feed, found.row]
            · intro last isLast
              exact found.starts last (by simpa using isLast)

end Text

namespace LineIndex

open Text

/-- Characters without line feeds lengthen the first row only, by induction over them. -/
theorem ofChars_append {line : List Char} (single : '\n' ∉ line) (back : List Char)
    : ofChars (line ++ back)
      = ⟨byteLength line + (ofChars back).first, (ofChars back).rest⟩ := by
  induction line with
  | nil => simp [byteLength]
  | cons c rest ih =>
      have other : c ≠ '\n' := fun same => single (same ▸ List.mem_cons_self)
      have later : '\n' ∉ rest := fun there => single (List.mem_cons_of_mem c there)
      simp only [List.cons_append, ofChars, if_neg other, ih later, byteLength]
      congr 1
      omega

/-- The row behind some line feeds spans the line there, by induction over the characters before
the line: those of the row at hand only add to its width.
-/
theorem spanFrom_ofChars {front line back : List Char} (start width : Nat)
    (starts : ∀ c, front.getLast? = some c → c = '\n') (fresh : front = [] → width = 0)
    (single : '\n' ∉ line) (ends : ∀ c, back.head? = some c → c = '\n')
    : let lines := ofChars (front ++ (line ++ back))
      let first := start + width + byteLength front
      spanFrom start (width + lines.first) lines.rest (front.count '\n')
        = some (first, first + byteLength line) := by
  induction front generalizing start width with
  | nil =>
      obtain rfl := fresh rfl
      have last : (ofChars back).first = 0 := by
        cases back with
        | nil => rfl
        | cons c rest => simp [ofChars, ends c rfl]
      simp [ofChars_append single, last, spanFrom, byteLength]
  | cons c front ih =>
      have startsLater : ∀ c, front.getLast? = some c → c = '\n' := by
        intro last isLast
        exact starts last (by rw [List.getLast?_cons, isLast]; rfl)
      by_cases feed : c = '\n'
      · subst feed
        have later := ih (start + width + 1) 0 startsLater (fun _ => rfl)
        simp only [Nat.zero_add, Nat.add_zero] at later
        simp only [List.cons_append, ofChars, if_true, Nat.add_zero, List.count_cons_self,
          spanFrom, later, byteLength, utf8Size_lineFeed]
        congr 2 <;> omega
      · have more : front ≠ [] := by
          rintro rfl
          exact feed (starts c rfl)
        have later := ih start (width + c.utf8Size) startsLater (fun none => absurd none more)
        simp only [List.cons_append, ofChars, if_neg feed, List.count_cons_of_ne feed, byteLength]
        rw [Nat.add_comm (ofChars _).first, ← Nat.add_assoc width, later]
        congr 2 <;> omega

/-- A text ends where its last row does, by induction over its characters. -/
theorem endFrom_ofChars (chars : List Char) (start width : Nat)
    : endFrom start (width + (ofChars chars).first) (ofChars chars).rest
      = start + width + byteLength chars := by
  induction chars generalizing start width with
  | nil => rfl
  | cons c rest ih =>
      by_cases feed : c = '\n'
      · subst feed
        have later := ih (start + width + 1) 0
        rw [Nat.zero_add] at later
        simp only [ofChars, if_true, endFrom, Nat.add_zero, later, byteLength,
          utf8Size_lineFeed]
        omega
      · have later := ih start (width + c.utf8Size)
        simp only [ofChars, if_neg feed, byteLength]
        rw [Nat.add_comm (ofChars _).first, ← Nat.add_assoc width, later]
        omega

@[simp]
theorem textEnd_ofText (text : String) : (ofText text).textEnd = byteLength text.toList := by
  have whole := endFrom_ofChars text.toList 0 0
  simpa only [Nat.zero_add, textEnd, ofText] using whole

/-- There is a row for each line feed and one more, by induction over the characters. -/
theorem lineCount_ofChars (chars : List Char)
    : (ofChars chars).lineCount = chars.count '\n' + 1 := by
  induction chars with
  | nil => rfl
  | cons c rest ih =>
      rw [lineCount] at ih ⊢
      by_cases feed : c = '\n'
      · simp [ofChars, feed, ih]
      · simp [ofChars, feed, ih]

variable {text : String} {row first last : Nat}

theorem span?_of_isLine {front line back : List Char}
    (isLine : IsLine text.toList row front line back)
    : (ofText text).span? row = some (byteLength front, byteLength (front ++ line)) := by
  have span := spanFrom_ofChars 0 0 isLine.starts (fun _ => rfl) isLine.single isLine.ends
  simpa [span?, ofText, isLine.whole, isLine.row] using span

/-- The rows of a text are its lines. -/
theorem span?_ofText_eq_some_iff
    : (ofText text).span? row = some (first, last)
      ↔ ∃ front line back,
          IsLine text.toList row front line back
          ∧ byteLength front = first
          ∧ byteLength (front ++ line) = last := by
  constructor
  · intro span
    have within : row < (ofText text).lineCount := by
      refine Nat.lt_of_not_le fun beyond => ?_
      rw [span?_eq_none_iff.mpr beyond] at span
      cases span
    rw [ofText, lineCount_ofChars] at within
    obtain ⟨front, line, back, isLine⟩ := exists_isLine (Nat.le_of_lt_succ within)
    obtain ⟨rfl, rfl⟩ := Prod.mk.inj (Option.some.inj ((span?_of_isLine isLine).symm.trans span))
    exact ⟨front, line, back, isLine, rfl, rfl⟩
  · rintro ⟨front, line, back, isLine, rfl, rfl⟩
    exact span?_of_isLine isLine

/-- The rows of a text are those of its bytes. -/
theorem isRow_of_span? (span : (ofText text).span? row = some (first, last))
    : IsRow (bytes text) row first last := by
  obtain ⟨front, line, back, isLine, rfl, rfl⟩ := span?_ofText_eq_some_iff.mp span
  exact isLine.isRow

end LineIndex

end SyntaxExplorer
