import SyntaxExplorer.Proofs.Text.LineTables
import SyntaxExplorer.Text.Stepwise

/-! The word that a position touches.  Words of a line are its maximal runs of word characters.  At
least one other character stands between two of them, so that no position touches both, and it does
not matter in which order they are looked through.
-/

namespace SyntaxExplorer.Selection

open Text Words

-----------------------------------------------------------------------------------------
-- Words of a line
-----------------------------------------------------------------------------------------

/-- A word of a line is a maximal run of word characters, between what stands before and after it. -/
structure IsWord (line before word after : List Char) : Prop where
  whole : line = before ++ word ++ after
  nonempty : word ≠ []
  inside : ∀ c ∈ word, isWordCharacter c = true
  left : ∀ c, before.getLast? = some c → isWordCharacter c = false
  right : ∀ c, after.head? = some c → isWordCharacter c = false

/-- A line has a word between two bytes. -/
def HasWord (line : List Char) (first last : Nat) : Prop :=
  ∃ before word after,
    IsWord line before word after
    ∧ byteLength before = first
    ∧ byteLength (before ++ word) = last

namespace IsWord

variable {line before word after : List Char}

/-- A word starts with a word character. -/
theorem inside_first {c : Char} {rest : List Char} (isWord : IsWord line before word after)
    (split : c :: rest = word ++ after)
    : isWordCharacter c = true := by
  cases word with
  | nil => exact absurd rfl isWord.nonempty
  | cons first others =>
      rw [(List.cons.inj split).1]
      exact isWord.inside first List.mem_cons_self

/-- From where it starts, a word is all up to the first other character. -/
theorem eq_takeWhile (isWord : IsWord line before word after)
    : (word ++ after).takeWhile isWordCharacter = word := by
  rw [List.takeWhile_append_of_pos isWord.inside]
  cases after with
  | nil => simp
  | cons c rest => simp [isWord.right c rfl]

/-- A word that starts no later than another one ends does not start behind its start: the character
before it would be one of the other word.
-/
theorem not_behind {between word' after' : List Char} (isWord : IsWord line before word after)
    (other : IsWord line (before ++ between) word' after')
    (touching : byteLength (before ++ between) ≤ byteLength (before ++ word))
    : between = [] := by
  have same : between ++ (word' ++ after') = word ++ after := by
    have whole := other.whole.symm.trans isWord.whole
    simpa only [List.append_assoc, List.append_cancel_left_eq] using whole
  refine Classical.byContradiction fun something => ?_
  obtain ⟨c, isLast⟩ := Option.isSome_iff_exists.mp (List.getLast?_isSome.mpr something)
  have outside : isWordCharacter c = false := by
    refine other.left c ?_
    rw [List.getLast?_append, isLast]
    rfl
  -- What stands between is no longer than the word, so its last character is one of it.
  have within : c ∈ word := by
    rcases List.append_eq_append_iff.mp same with ⟨more, rfl, _⟩ | ⟨surplus, rfl, _⟩
    · exact List.mem_append_left _ (List.mem_of_getLast? isLast)
    · simp only [byteLength_append] at touching
      have none : surplus = [] := byteLength_eq_zero_iff.mp (by omega)
      rw [none, List.append_nil] at isLast
      exact List.mem_of_getLast? isLast
  rw [isWord.inside c within] at outside
  cases outside

/-- Two words that touch are the same: neither starts behind the start of the other, and both end at
the first other character.
-/
theorem eq_of_touching {before' word' after' : List Char} (isWord : IsWord line before word after)
    (other : IsWord line before' word' after')
    (first : byteLength before ≤ byteLength (before' ++ word'))
    (second : byteLength before' ≤ byteLength (before ++ word))
    : before = before' ∧ word = word' := by
  have same : before ++ (word ++ after) = before' ++ (word' ++ after') := by
    rw [← List.append_assoc, ← List.append_assoc, ← isWord.whole, ← other.whole]
  have start : before = before' := by
    rcases List.append_eq_append_iff.mp same with ⟨between, rfl, _⟩ | ⟨between, rfl, _⟩
    · rw [isWord.not_behind other second, List.append_nil]
    · rw [other.not_behind isWord first, List.append_nil]
  subst start
  refine ⟨rfl, ?_⟩
  rw [← isWord.eq_takeWhile, ← other.eq_takeWhile, List.append_cancel_left same]

end IsWord

namespace HasWord

variable {line : List Char} {first last : Nat}

/-- A word has at least one byte and lies within its line. -/
theorem within (hasWord : HasWord line first last) : first < last ∧ last ≤ byteLength line := by
  obtain ⟨before, word, after, isWord, rfl, rfl⟩ := hasWord
  have positive : byteLength word ≠ 0 := mt byteLength_eq_zero_iff.mp isWord.nonempty
  simp only [isWord.whole, byteLength_append]
  omega

theorem eq_of_touching {first' last' : Nat} (hasWord : HasWord line first last)
    (other : HasWord line first' last') (start : first ≤ last') (start' : first' ≤ last)
    : first = first' ∧ last = last' := by
  obtain ⟨before, word, after, isWord, rfl, rfl⟩ := hasWord
  obtain ⟨before', word', after', isWord', rfl, rfl⟩ := other
  obtain ⟨rfl, rfl⟩ := isWord.eq_of_touching isWord' start start'
  exact ⟨rfl, rfl⟩

/-- A word that does not start before some other character starts behind it. -/
theorem behind {passed rest : List Char} {c : Char}
    (hasWord : HasWord (passed ++ c :: rest) first last) (outside : isWordCharacter c = false)
    (after : byteLength passed ≤ first)
    : byteLength (passed ++ [c]) ≤ first := by
  obtain ⟨before, word, rest', isWord, rfl, rfl⟩ := hasWord
  have same : passed ++ c :: rest = before ++ (word ++ rest') := by
    rw [isWord.whole, List.append_assoc]
  have notHere (split : c :: rest = word ++ rest') : False := by
    rw [isWord.inside_first split] at outside
    cases outside
  rcases List.append_eq_append_iff.mp same with ⟨between, rfl, split⟩ | ⟨surplus, rfl, split⟩
  · cases between with
    | nil => exact (notHere split).elim
    | cons next others =>
        obtain rfl := (List.cons.inj split).1
        simp only [byteLength_append, byteLength]
        omega
  · rw [byteLength_append] at after
    have none : surplus = [] := byteLength_eq_zero_iff.mp (by omega)
    subst none
    exact (notHere split.symm).elim

/-- Of the words from the start of one on, all others start behind its end. -/
theorem from_start_iff {start stop : Nat} (run : HasWord line start stop)
    : HasWord line first last ∧ start ≤ first
      ↔ (first, last) = (start, stop) ∨ HasWord line first last ∧ stop < first := by
  constructor
  · rintro ⟨hasWord, after⟩
    rcases Nat.lt_or_ge stop first with later | touching
    · exact .inr ⟨hasWord, later⟩
    · have within := hasWord.within
      obtain ⟨rfl, rfl⟩ := hasWord.eq_of_touching run touching (by omega)
      exact .inl rfl
  · rintro (same | ⟨hasWord, later⟩)
    · cases same
      exact ⟨run, Nat.le_refl _⟩
    · have within := run.within
      exact ⟨hasWord, by omega⟩

end HasWord

-----------------------------------------------------------------------------------------
-- Going through a line
-----------------------------------------------------------------------------------------

/-- What is known of the run at hand behind some characters: it is a word so far, from where it
started on; or none is open, and the last character is none of a word.
-/
def IsOpen (passed : List Char) : Option Nat → Prop
  | none => ∀ c, passed.getLast? = some c → isWordCharacter c = false
  | some start =>
      ∃ before run,
        IsWord passed before run []
        ∧ byteLength before = start

/-- A word character goes on with the run at hand, or starts one. -/
theorem IsOpen.extend {passed : List Char} {start : Option Nat} {c : Char}
    (isOpen : IsOpen passed start) (inside : isWordCharacter c = true)
    : IsOpen (passed ++ [c]) (some (start.getD (byteLength passed))) := by
  cases start with
  | none =>
      refine ⟨passed, [c], ⟨by simp, by simp, ?_, isOpen, by simp⟩, rfl⟩
      intro other there
      rwa [List.mem_singleton.mp there]
  | some start =>
      obtain ⟨before, run, isWord, rfl⟩ := isOpen
      refine ⟨before, run ++ [c], ⟨?_, by simp, ?_, isWord.left, by simp⟩, rfl⟩
      · rw [isWord.whole]
        simp
      · intro other there
        rcases List.mem_append.mp there with earlier | last
        · exact isWord.inside other earlier
        · rwa [List.mem_singleton.mp last]

/-- The run at hand is a word of the line if no word character follows. -/
theorem IsOpen.hasWord {passed rest : List Char} {start : Nat} (isOpen : IsOpen passed (some start))
    (closed : ∀ c, rest.head? = some c → isWordCharacter c = false)
    : HasWord (passed ++ rest) start (byteLength passed) := by
  obtain ⟨before, run, isWord, rfl⟩ := isOpen
  have whole : passed = before ++ run := by
    rw [isWord.whole, List.append_nil]
  refine ⟨before, run, rest, ⟨by rw [whole], isWord.nonempty, isWord.inside, isWord.left, closed⟩,
    rfl, by rw [whole]⟩

/-- The runs that are found from some place of a line on are its words from there on, with the run
at hand, by induction over what is left of the line.
-/
theorem mem_wordRuns_iff {passed rest : List Char} {start : Option Nat} {first last : Nat}
    (isOpen : IsOpen passed start)
    : (first, last) ∈ wordRuns start (byteLength passed) rest
      ↔ HasWord (passed ++ rest) first last ∧ start.getD (byteLength passed) ≤ first := by
  induction rest generalizing passed start with
  | nil =>
      cases start with
      | none =>
          simp only [wordRuns, Option.map_none, Option.toList_none, List.not_mem_nil, false_iff,
            List.append_nil, Option.getD_none]
          rintro ⟨hasWord, after⟩
          have within := hasWord.within
          omega
      | some start =>
          have run : HasWord (passed ++ []) start (byteLength passed) := isOpen.hasWord (by simp)
          rw [Option.getD_some, run.from_start_iff]
          simp only [wordRuns, Option.map_some, Option.toList_some, List.mem_singleton]
          refine ⟨.inl, ?_⟩
          rintro (same | ⟨hasWord, later⟩)
          · exact same
          · have within := hasWord.within
            rw [List.append_nil] at within
            omega
  | cons c rest ih =>
      have onward : passed ++ c :: rest = passed ++ [c] ++ rest := by simp
      have next : byteLength passed + c.utf8Size = byteLength (passed ++ [c]) := by
        simp [byteLength_append, byteLength]
      have positive := c.utf8Size_pos
      by_cases inside : isWordCharacter c = true
      · rw [wordRuns, if_pos inside, next, ih (isOpen.extend inside), onward, Option.getD_some]
      · have outside := Bool.eq_false_iff.mpr inside
        have closed : IsOpen (passed ++ [c]) none := by
          intro other isLast
          rw [List.getLast?_concat] at isLast
          exact Option.some.inj isLast ▸ outside
        rw [wordRuns, if_neg inside, List.mem_append, next, ih closed, ← onward, Option.getD_none]
        cases start with
        | none =>
            simp only [Option.map_none, Option.toList_none, List.not_mem_nil, false_or,
              Option.getD_none]
            refine and_congr_right fun hasWord => ⟨fun after => ?_, hasWord.behind outside⟩
            omega
        | some start =>
            have run : HasWord (passed ++ c :: rest) start (byteLength passed) := by
              refine isOpen.hasWord fun other isFirst => ?_
              rw [List.head?_cons] at isFirst
              exact Option.some.inj isFirst ▸ outside
            rw [Option.getD_some, run.from_start_iff]
            simp only [Option.map_some, Option.toList_some, List.mem_singleton]
            refine or_congr_right (and_congr_right fun hasWord => ⟨fun after => ?_, fun later => ?_⟩)
            · omega
            · exact hasWord.behind outside (Nat.le_of_lt later)

/-- The word that is found at a byte of a line is the one that touches it: as there is no other, it
does not matter that the first one is taken.
-/
theorem find?_wordRuns_eq_some_iff {line : List Char} {column first last : Nat}
    : (wordRuns none 0 line).find? (fun (first, last) => first ≤ column && column ≤ last)
        = some (first, last)
      ↔ HasWord line first last ∧ first ≤ column ∧ column ≤ last := by
  have words (first last : Nat) : (first, last) ∈ wordRuns none 0 line ↔ HasWord line first last := by
    have listed : (first, last) ∈ wordRuns none (byteLength []) line
        ↔ HasWord ([] ++ line) first last ∧ byteLength [] ≤ first :=
      mem_wordRuns_iff (by simp [IsOpen])
    simpa [byteLength] using listed
  constructor
  · intro found
    have touching := List.find?_some found
    simp only [Bool.and_eq_true, decide_eq_true_eq] at touching
    exact ⟨(words first last).mp (List.mem_of_find?_eq_some found), touching⟩
  · rintro ⟨hasWord, start, stop⟩
    cases found : (wordRuns none 0 line).find? fun (first, last) =>
        first ≤ column && column ≤ last with
    | none =>
        have away := List.find?_eq_none.mp found _ ((words first last).mpr hasWord)
        simp [start, stop] at away
    | some run =>
        obtain ⟨first', last'⟩ := run
        have touching := List.find?_some found
        simp only [Bool.and_eq_true, decide_eq_true_eq] at touching
        have other := (words first' last').mp (List.mem_of_find?_eq_some found)
        obtain ⟨rfl, rfl⟩ := hasWord.eq_of_touching other (by omega) (by omega)
        rfl

-----------------------------------------------------------------------------------------
-- Words of a text
-----------------------------------------------------------------------------------------

/-- A word of a row of a text, by its offsets. -/
def IsWordOf (text : String) (row first last : Nat) : Prop :=
  ∃ front line back before stop,
    IsLine text.toList row front line back
    ∧ HasWord line before stop
    ∧ byteLength front + before = first
    ∧ byteLength front + stop = last

variable {text : String} {point : Point} {row first last : Nat}

/-- The word at a position is looked for in the line of its row. -/
theorem wordAt?_of_isLine {front line back : List Char}
    (isLine : IsLine text.toList point.row front line back)
    : wordAt? text (LineIndex.ofText text) point
      = ((wordRuns none 0 line).find? fun (first, last) =>
          first ≤ min point.column (byteLength line)
            && min point.column (byteLength line) ≤ last).map fun (first, last) =>
              (byteLength front + first, byteLength front + last) := by
  have width : byteLength (front ++ line) - byteLength front = byteLength line := by
    rw [byteLength_append, Nat.add_sub_cancel_left]
  simp only [wordAt?, LineIndex.span?_of_isLine isLine, slice?_of_append isLine.whole, width,
    String.toList_ofList, bind, Option.bind, pure]
  cases (wordRuns none 0 line).find? _ <;> rfl

/-- The offset of a position in a line is that of its column, or the end of the line. -/
theorem offsetAt?_of_isLine {front line back : List Char}
    (isLine : IsLine text.toList point.row front line back)
    : (LineIndex.ofText text).offsetAt? point
      = some (byteLength front + min point.column (byteLength line)) := by
  rw [LineIndex.offsetAt?_eq_some_iff]
  refine ⟨_, _, LineIndex.span?_of_isLine isLine, ?_⟩
  rw [byteLength_append]
  omega

/-- The word at a position is the one of its row that touches its offset. -/
theorem wordAt?_eq_some_iff
    : wordAt? text (LineIndex.ofText text) point = some (first, last)
      ↔ IsWordOf text point.row first last
        ∧ ∃ cursor,
            (LineIndex.ofText text).offsetAt? point = some cursor
            ∧ first ≤ cursor
            ∧ cursor ≤ last := by
  constructor
  · intro found
    have inText : ∃ bounds, (LineIndex.ofText text).span? point.row = some bounds := by
      simp only [wordAt?, Option.bind_eq_bind, Option.bind_eq_some_iff] at found
      exact found.imp fun _ => And.left
    obtain ⟨⟨start, stop⟩, span⟩ := inText
    obtain ⟨front, line, back, isLine, -, -⟩ := LineIndex.span?_ofText_eq_some_iff.mp span
    rw [wordAt?_of_isLine isLine, Option.map_eq_some_iff] at found
    obtain ⟨⟨before, behind⟩, run, same⟩ := found
    obtain ⟨hasWord, after, notBehind⟩ := find?_wordRuns_eq_some_iff.mp run
    cases same
    exact ⟨⟨front, line, back, before, behind, isLine, hasWord, rfl, rfl⟩, _,
      offsetAt?_of_isLine isLine, by omega, by omega⟩
  · rintro ⟨⟨front, line, back, before, behind, isLine, hasWord, rfl, rfl⟩, cursor, there, after,
      notBehind⟩
    obtain rfl := Option.some.inj ((offsetAt?_of_isLine isLine).symm.trans there)
    have touches : before ≤ min point.column (byteLength line)
        ∧ min point.column (byteLength line) ≤ behind := by
      omega
    have run := find?_wordRuns_eq_some_iff.mpr ⟨hasWord, touches⟩
    rw [wordAt?_of_isLine isLine, run, Option.map_some]

/-- A word of a text has at least one byte, lies within its row, and ends at boundaries. -/
theorem IsWordOf.within (isWord : IsWordOf text row first last)
    : first < last
      ∧ (∃ start stop,
          (LineIndex.ofText text).span? row = some (start, stop) ∧ start ≤ first ∧ last ≤ stop)
      ∧ isBoundary text.toList first = true
      ∧ isBoundary text.toList last = true := by
  obtain ⟨front, line, back, _, _, isLine, hasWord, rfl, rfl⟩ := isWord
  obtain ⟨ordered, inside⟩ := hasWord.within
  refine ⟨by omega, ⟨_, _, LineIndex.span?_of_isLine isLine, by omega, ?_⟩, ?_⟩
  · rw [byteLength_append]
    omega
  · obtain ⟨before, word, after, isWord, rfl, rfl⟩ := hasWord
    rw [isLine.whole, isWord.whole, ← byteLength_append, ← byteLength_append, ← List.append_assoc]
    constructor
    · simp only [List.append_assoc]
      rw [← List.append_assoc front before]
      exact isBoundary_append _ _
    · simp only [List.append_assoc]
      rw [← List.append_assoc before word, ← List.append_assoc front]
      exact isBoundary_append _ _

/-- No offset touches two words of a row: the word at its position is either of them. -/
theorem IsWordOf.eq_of_touching {cursor first' last' : Nat} (isWord : IsWordOf text row first last)
    (other : IsWordOf text row first' last') (touches : first ≤ cursor ∧ cursor ≤ last)
    (touches' : first' ≤ cursor ∧ cursor ≤ last')
    : first = first' ∧ last = last' := by
  obtain ⟨_, ⟨start, stop, span, after, before⟩, _⟩ := isWord.within
  have position : (LineIndex.ofText text).positionAt cursor = ⟨row, cursor - start⟩ :=
    LineIndex.positionAt_eq span (by omega) (by omega)
  have there : (LineIndex.ofText text).offsetAt? ⟨row, cursor - start⟩ = some cursor := by
    rw [← position]
    refine LineIndex.offsetAt?_positionAt ?_
    have inText := (LineIndex.span?_within span).2.2
    omega
  have found := wordAt?_eq_some_iff.mpr ⟨isWord, cursor, there, touches⟩
  have found' := wordAt?_eq_some_iff.mpr ⟨other, cursor, there, touches'⟩
  exact Prod.mk.inj (Option.some.inj (found.symm.trans found'))

/-- Step by step on words the same word is found: the line is sliced at its boundaries, and the word
ends where the line does or before.
-/
theorem wordStepwise_eq {table : LineTable} (indexes : table.Indexes (LineIndex.ofText text))
    (point : Point)
    : wordStepwise text table point = .ok (wordAt? text (LineIndex.ofText text) point) := by
  cases span : (LineIndex.ofText text).span? point.row with
  | none =>
      have nowhere : (LineIndex.ofText text).offsetAt? ⟨point.row, 0⟩ = none := by
        rw [LineIndex.offsetAt?, span, Option.map_none]
      simp only [wordStepwise, indexes.offsetAt, nowhere, wordAt?, span]
      rfl
  | some bounds =>
      obtain ⟨start, stop⟩ := bounds
      obtain ⟨front, line, back, isLine, rfl, rfl⟩ := LineIndex.span?_ofText_eq_some_iff.mp span
      have length := byteLength_append front line
      have width : byteLength (front ++ line) - byteLength front = byteLength line := by omega
      have begins : (LineIndex.ofText text).offsetAt? ⟨point.row, 0⟩ = some (byteLength front) := by
        have atStart : IsLine text.toList (⟨point.row, 0⟩ : Point).row front line back := isLine
        simpa using offsetAt?_of_isLine atStart
      have ends : (LineIndex.ofText text).lineEnd? point.row = some (byteLength (front ++ line)) := by
        rw [LineIndex.lineEnd?, span, Option.map_some]
      have ordered : byteLength front ≤ byteLength (front ++ line) := by omega
      rw [wordAt?_of_isLine isLine]
      simp only [wordStepwise, indexes.offsetAt, begins, indexes.lineEnd, ends, sub_of_le ordered,
        slice_of_append isLine.whole, width, String.toList_ofList, bind, Except.bind, pure,
        Except.pure]
      cases run : (wordRuns none 0 line).find? fun (first, last) =>
          first ≤ min point.column (byteLength line)
            && min point.column (byteLength line) ≤ last with
      | none => rfl
      | some word =>
          obtain ⟨first, last⟩ := word
          obtain ⟨shorter, inside⟩ := (find?_wordRuns_eq_some_iff.mp run).1.within
          have bounded := indexes.bounded
          have inText := (LineIndex.span?_within span).2.2
          have firstWord : byteLength front + first < offsetBound := by omega
          have lastWord : byteLength front + last < offsetBound := by omega
          simp only [add_of_lt firstWord, add_of_lt lastWord, Option.map_some]

/-- A word is found at a position exactly if the text has its row and a word of this row touches the
offset of the position, which is that of its column or the end of the row; it is that word, and there
is no other.  It has at least one byte, lies within the row and ends at boundaries.  Step by step on
words it is found without breaking off, whatever the position.
-/
theorem wordAt?_touchesCursor (text : String) (point : Point)
    : let lines := LineIndex.ofText text
      let found := wordAt? text lines point
      (∀ first last,
        found = some (first, last)
          ↔ IsWordOf text point.row first last
            ∧ ∃ cursor,
                lines.offsetAt? point = some cursor ∧ first ≤ cursor ∧ cursor ≤ last)
      ∧ (∀ cursor first last first' last',
          IsWordOf text point.row first last → first ≤ cursor ∧ cursor ≤ last
          → IsWordOf text point.row first' last' → first' ≤ cursor ∧ cursor ≤ last'
          → first = first' ∧ last = last')
      ∧ (∀ first last, found = some (first, last)
          → first < last
            ∧ (∃ start stop,
                lines.span? point.row = some (start, stop) ∧ start ≤ first ∧ last ≤ stop)
            ∧ isBoundary text.toList first = true
            ∧ isBoundary text.toList last = true)
      ∧ (byteLength text.toList + 1 < offsetBound
          → ∃ table,
              LineTable.ofText text = .ok table
              ∧ wordStepwise text table point = .ok found) := by
  intro lines found
  refine ⟨fun first last => wordAt?_eq_some_iff, ?_, ?_, ?_⟩
  · intro cursor first last first' last' isWord touches other touches'
    exact isWord.eq_of_touching other touches touches'
  · intro first last here
    exact (wordAt?_eq_some_iff.mp here).1.within
  · intro bounded
    obtain ⟨table, made, indexes⟩ := LineTable.exists_ofText bounded
    exact ⟨table, made, wordStepwise_eq indexes point⟩

/-- A position behind the end of a line touches the word at that end, here one with a character of
several bytes, and a position between two other characters touches none.
-/
theorem wordAt?_touchesCursor_accents
    : IsWordOf "a = é\nb" 0 4 6
      ∧ byteLength "a = é\nb".toList + 1 < offsetBound
      ∧ ∃ table,
          LineTable.ofText "a = é\nb" = .ok table
          ∧ wordStepwise "a = é\nb" table ⟨0, 18446744073709551615⟩ = .ok (some (4, 6))
          ∧ wordStepwise "a = é\nb" table ⟨0, 3⟩ = .ok none := by
  have bounded : byteLength "a = é\nb".toList + 1 < offsetBound := by decide
  have found : wordAt? "a = é\nb" (LineIndex.ofText "a = é\nb") ⟨0, 18446744073709551615⟩
      = some (4, 6) := by
    decide +kernel
  have nothing : wordAt? "a = é\nb" (LineIndex.ofText "a = é\nb") ⟨0, 3⟩ = none := by
    decide +kernel
  obtain ⟨word, _, _, stepwise⟩ :=
    wordAt?_touchesCursor "a = é\nb" ⟨0, 18446744073709551615⟩
  obtain ⟨_, _, _, stepwise'⟩ := wordAt?_touchesCursor "a = é\nb" ⟨0, 3⟩
  obtain ⟨table, made, steps⟩ := stepwise bounded
  obtain ⟨table', made', steps'⟩ := stepwise' bounded
  obtain rfl : table = table' := Except.ok.inj (made.symm.trans made')
  exact ⟨((word 4 6).mp found).1, bounded, table, made, steps.trans (congrArg _ found),
    steps'.trans (congrArg _ nothing)⟩

end SyntaxExplorer.Selection
