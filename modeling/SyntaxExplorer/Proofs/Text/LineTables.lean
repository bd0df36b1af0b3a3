import SyntaxExplorer.Proofs.Text.Lines
import SyntaxExplorer.Text.LineTable

/-! Tables of lines answer as line indexes do, and on words no computation with them breaks off.
The table of a text has the starts of its rows in order, so that halving finds the last start that is
not behind an offset.
-/

namespace SyntaxExplorer

open Text Words

-----------------------------------------------------------------------------------------
-- Words and what they point at
-----------------------------------------------------------------------------------------

namespace Words

@[simp]
theorem add_of_lt {left right : Nat} (word : left + right < offsetBound)
    : add left right = .ok (left + right) := by
  simp [add, sum?, word]

@[simp]
theorem sub_of_le {left right : Nat} (order : right ≤ left)
    : sub left right = .ok (left - right) := by
  simp [sub, order]

/-- Below a bound that is a word, a sum that saturates is as good as one that does not. -/
theorem min_saturatingAdd {left right bound : Nat} (word : bound < offsetBound)
    : min (saturatingAdd left right) bound = min (left + right) bound := by
  rw [saturatingAdd, sum?]
  split
  · rfl
  · simp only [Option.getD_none]
    omega

theorem entry_of_getElem? {α : Type} {entries : Array α} {index : Nat} {value : α}
    (there : entries[index]? = some value)
    : entry entries index = .ok value := by
  rw [entry, there]

/-- A slice between two boundaries is what stands there. -/
theorem slice_of_append {text : String} {before within after : List Char}
    (whole : text.toList = before ++ within ++ after)
    : slice text (byteLength before) (byteLength (before ++ within))
      = .ok (String.ofList within) := by
  rw [slice, slice?_of_append whole]

end Words

-----------------------------------------------------------------------------------------
-- Search by halves
-----------------------------------------------------------------------------------------

namespace LineTable

/-- Offsets are in order, none of them twice. -/
def InOrder (starts : Array Nat) : Prop :=
  ∀ ⦃place later first second : Nat⦄,
    starts[place]? = some first → starts[later]? = some second → place < later → first < second

/-- All offsets before a place are smaller than an offset. -/
def SmallerBefore (starts : Array Nat) (offset place : Nat) : Prop :=
  ∀ ⦃earlier start : Nat⦄, earlier < place → starts[earlier]? = some start → start < offset

/-- All offsets from a place on are greater than an offset. -/
def GreaterFrom (starts : Array Nat) (offset place : Nat) : Prop :=
  ∀ ⦃later start : Nat⦄, place ≤ later → starts[later]? = some start → offset < start

/-- A search by halves finds an offset or the place between the smaller ones and the greater ones, by
induction over its steps: each keeps to the part that the offset can be in.
-/
theorem search_spec {starts : Array Nat} {offset low high : Nat} (within : high ≤ starts.size)
    (ordered : InOrder starts) (opened : low ≤ high) (smaller : SmallerBefore starts offset low)
    (greater : GreaterFrom starts offset high)
    : match search starts offset low high within with
      | .ok place => starts[place]? = some offset
      | .error place =>
          place ≤ starts.size
          ∧ SmallerBefore starts offset place
          ∧ GreaterFrom starts offset place := by
  fun_induction search starts offset low high within with
  | case1 low high within wide middle inside found =>
      exact found ▸ Array.getElem?_eq_getElem inside
  | case2 low high within wide middle inside other less ih =>
      refine ih (by omega) ?_ greater
      intro place start before there
      rcases Nat.lt_or_eq_of_le (Nat.le_of_lt_succ before) with earlier | rfl
      · have less' := ordered there (Array.getElem?_eq_getElem inside) earlier
        omega
      · obtain rfl := Option.some.inj ((Array.getElem?_eq_getElem inside).symm.trans there)
        exact less
  | case3 low high within wide middle inside other notLess ih =>
      refine ih (by omega) smaller ?_
      intro place start after there
      rcases Nat.lt_or_eq_of_le after with later | rfl
      · have less := ordered (Array.getElem?_eq_getElem inside) there later
        omega
      · obtain rfl := Option.some.inj ((Array.getElem?_eq_getElem inside).symm.trans there)
        omega
  | case4 low high within closed =>
      exact ⟨by omega, smaller, fun place start after there => greater (by omega) there⟩

-----------------------------------------------------------------------------------------
-- The answers of a table
-----------------------------------------------------------------------------------------

/-- A table has the starts of the rows of a line index, all of which are words. -/
structure Indexes (table : LineTable) (lines : LineIndex) : Prop where
  starts : ∀ row, table.starts[row]? = (lines.span? row).map (·.1)
  length : table.length = lines.textEnd
  bounded : lines.textEnd + 1 < offsetBound

namespace Indexes

variable {table : LineTable} {lines : LineIndex}

theorem lineCount (indexes : table.Indexes lines) : table.lineCount = lines.lineCount := by
  have beyond (row : Nat) : table.lineCount ≤ row ↔ lines.lineCount ≤ row := by
    rw [LineTable.lineCount, ← Array.getElem?_eq_none_iff, indexes.starts,
      Option.map_eq_none_iff, LineIndex.span?_eq_none_iff]
  exact Nat.le_antisymm ((beyond _).mpr (Nat.le_refl _)) ((beyond _).mp (Nat.le_refl _))

theorem starts_of_span? (indexes : table.Indexes lines) {row first last : Nat}
    (span : lines.span? row = some (first, last))
    : table.starts[row]? = some first := by
  rw [indexes.starts, span]
  rfl

theorem exists_of_starts (indexes : table.Indexes lines) {row first : Nat}
    (there : table.starts[row]? = some first)
    : ∃ last, lines.span? row = some (first, last) := by
  rw [indexes.starts, Option.map_eq_some_iff] at there
  obtain ⟨⟨first, last⟩, span, rfl⟩ := there
  exact ⟨last, span⟩

/-- Rows start in order, as they lie apart. -/
theorem inOrder (indexes : table.Indexes lines) : InOrder table.starts := by
  intro place later first second here there order
  obtain ⟨last, span⟩ := indexes.exists_of_starts here
  obtain ⟨last', span'⟩ := indexes.exists_of_starts there
  have apart : last < second := LineIndex.spanFrom_apart span span' order
  have ordered := (LineIndex.span?_within span).2.1
  omega

/-- The place that a search leads to is the row that holds the offset, or the one behind it. -/
theorem search_row (indexes : table.Indexes lines) {row first last offset : Nat}
    (span : lines.span? row = some (first, last)) (after : first ≤ offset)
    (before : offset ≤ last)
    : search table.starts offset 0 table.starts.size (Nat.le_refl _) = .ok row
      ∨ search table.starts offset 0 table.starts.size (Nat.le_refl _) = .error (row + 1) := by
  have smaller : SmallerBefore table.starts offset 0 := by
    intro place _ early
    exact absurd early (Nat.not_lt_zero place)
  have greater : GreaterFrom table.starts offset table.starts.size := by
    intro place _ late there
    rw [Array.getElem?_eq_none late] at there
    cases there
  have spec := search_spec (Nat.le_refl _) indexes.inOrder (Nat.zero_le _) smaller greater
  generalize search table.starts offset 0 table.starts.size (Nat.le_refl _) = result at spec
  cases result with
  | ok place =>
      obtain ⟨last', span'⟩ := indexes.exists_of_starts spec
      have ordered := (LineIndex.span?_within span').2.1
      have same := LineIndex.positionAt_eq span' (Nat.le_refl _) ordered
      rw [LineIndex.positionAt_eq span after before] at same
      exact .inl (congrArg Except.ok (congrArg Point.row same).symm)
  | error next =>
      obtain ⟨bounded, smaller, greater⟩ := spec
      have behind : row < next := by
        refine Nat.lt_of_not_le fun ahead => ?_
        have less := greater ahead (indexes.starts_of_span? span)
        omega
      refine .inr (congrArg Except.error (Nat.le_antisymm ?_ behind))
      refine Nat.le_of_not_lt fun further => ?_
      -- The row behind would start before the offset, and so before its own row ends.
      have inside : row + 1 < table.starts.size := by omega
      have there := Array.getElem?_eq_getElem inside
      have less := smaller further there
      obtain ⟨last', span'⟩ := indexes.exists_of_starts there
      have apart := LineIndex.spanFrom_apart span span' (Nat.lt_succ_self row)
      omega

/-- A table has the positions of the line index; neither the row before the place that a search leads
to nor the column is below zero.
-/
theorem positionAt (indexes : table.Indexes lines) (offset : Nat)
    : table.positionAt offset = .ok (lines.positionAt offset) := by
  have clamped : lines.positionAt offset = lines.positionAt (min offset table.length) := by
    rcases Nat.le_total offset table.length with within | beyond
    · rw [Nat.min_eq_left within]
    · rw [Nat.min_eq_right beyond, indexes.length]
      exact LineIndex.positionAt_beyond (indexes.length ▸ beyond)
  have within : min offset table.length ≤ lines.textEnd :=
    indexes.length ▸ Nat.min_le_right _ _
  obtain ⟨first, last, span, column, before⟩ := LineIndex.exists_span? within
  have after : first ≤ min offset table.length := by omega
  have start := entry_of_getElem? (indexes.starts_of_span? span)
  have distance : min offset table.length - first
      = (lines.positionAt (min offset table.length)).column := by omega
  rw [clamped]
  rcases indexes.search_row span after before with found | missed
  · simp only [LineTable.positionAt, found, pure, Except.pure, bind, Except.bind, start,
      sub_of_le after, distance]
  · simp only [LineTable.positionAt, missed, pure, Except.pure, bind, Except.bind,
      sub_of_le (Nat.le_add_left 1 _), Nat.add_sub_cancel, start, sub_of_le after, distance]

/-- A table has the ends of rows of the line index: the next row starts one offset behind an end. -/
theorem lineEnd (indexes : table.Indexes lines) (row : Nat)
    : table.lineEnd row = .ok (lines.lineEnd? row) := by
  rw [LineIndex.lineEnd?]
  cases span : lines.span? row with
  | none =>
      have beyond : table.starts.size ≤ row := by
        rw [← Array.getElem?_eq_none_iff, indexes.starts, span]
        rfl
      simp only [LineTable.lineEnd, if_pos beyond]
      rfl
  | some bounds =>
      obtain ⟨first, last⟩ := bounds
      have inside : ¬ table.starts.size ≤ row := by
        rw [← Array.getElem?_eq_none_iff, indexes.starts, span]
        simp
      obtain ⟨below, ordered, within⟩ := LineIndex.span?_within span
      have word : row + 1 < offsetBound := by
        have bounded := indexes.bounded
        omega
      have next : table.starts[row + 1]?
          = if last < lines.textEnd then some (last + 1) else none := by
        rw [indexes.starts]
        exact LineIndex.spanFrom_succ span
      simp only [LineTable.lineEnd, if_neg inside, add_of_lt word, pure, Except.pure, bind,
        Except.bind, next]
      split
      · rename_i start there
        split at there
        · cases there
          simp only [sub_of_le (Nat.le_add_left 1 _), Nat.add_sub_cancel, Option.map_some]
        · cases there
      · rename_i none
        split at none
        · cases none
        · have isEnd : last = lines.textEnd := by omega
          rw [indexes.length, isEnd, Option.map_some]

/-- A table has the offsets of the line index: where the sum of start and column is no word, it is
behind the end of the row.
-/
theorem offsetAt (indexes : table.Indexes lines) (point : Point)
    : table.offsetAt point = .ok (lines.offsetAt? point) := by
  rw [LineIndex.offsetAt?]
  cases span : lines.span? point.row with
  | none =>
      have none : table.starts[point.row]? = none := by
        rw [indexes.starts, span]
        rfl
      simp only [LineTable.offsetAt, none]
      rfl
  | some bounds =>
      obtain ⟨first, last⟩ := bounds
      obtain ⟨_, _, within⟩ := LineIndex.span?_within span
      have word : last < offsetBound := by
        have bounded := indexes.bounded
        omega
      have stop : lines.lineEnd? point.row = some last := by
        rw [LineIndex.lineEnd?, span]
        rfl
      simp only [LineTable.offsetAt, indexes.starts_of_span? span, indexes.lineEnd, stop, pure,
        Except.pure, bind, Except.bind, min_saturatingAdd word, Option.map_some]

end Indexes

-----------------------------------------------------------------------------------------
-- The table of a text
-----------------------------------------------------------------------------------------

/-- Where the rows behind a row start, that row having a start and a length. -/
def startsBehind (start length : Nat) : List Nat → List Nat
  | [] => []
  | next :: rest => (start + length + 1) :: startsBehind (start + length + 1) next rest

/-- The starts of rows are those of their spans, by induction over their lengths. -/
theorem getElem?_startsBehind (start length row : Nat) (rest : List Nat)
    : (start :: startsBehind start length rest)[row]?
      = (LineIndex.spanFrom start length rest row).map (·.1) := by
  induction rest generalizing start length row with
  | nil => cases row <;> simp [startsBehind, LineIndex.spanFrom]
  | cons next rest ih =>
      cases row with
      | zero => simp [LineIndex.spanFrom]
      | succ row => exact ih _ _ row

/-- The offsets behind the line feeds among some characters, by induction over these: all are words
if the end of the text is one.
-/
theorem mapM_lineFeeds (start width : Nat) {chars : List Char}
    (bounded : start + width + byteLength chars < offsetBound)
    : let lines := LineIndex.ofChars chars
      (lineFeeds (start + width) chars).mapM (add · 1)
        = .ok (startsBehind start (width + lines.first) lines.rest) := by
  induction chars generalizing start width with
  | nil => rfl
  | cons c rest ih =>
      rw [byteLength] at bounded
      by_cases feed : c = '\n'
      · subst feed
        rw [utf8Size_lineFeed] at bounded
        have later := ih (start + width + 1) 0 (by omega)
        simp only [Nat.add_zero, Nat.zero_add] at later
        have word : start + width + 1 < offsetBound := by omega
        simp only [lineFeeds, if_true, utf8Size_lineFeed, List.mapM_cons, add_of_lt word, later,
          LineIndex.ofChars, startsBehind, Nat.add_zero]
        rfl
      · have later := ih start (width + c.utf8Size) (by omega)
        simp only [lineFeeds, if_neg feed, LineIndex.ofChars, Nat.add_assoc start]
        simp only [later, Nat.add_assoc, Nat.add_comm c.utf8Size]

/-- On words the table of a text can be made, and it has the rows of the line index. -/
theorem exists_ofText {text : String} (bounded : byteLength text.toList + 1 < offsetBound)
    : ∃ table, ofText text = .ok table ∧ table.Indexes (LineIndex.ofText text) := by
  have whole : 0 + 0 + byteLength text.toList < offsetBound := by omega
  have starts := mapM_lineFeeds 0 0 whole
  simp only [Nat.zero_add] at starts
  let lines := LineIndex.ofText text
  refine ⟨⟨(0 :: startsBehind 0 lines.first lines.rest).toArray, byteLength text.toList⟩, ?_, ?_⟩
  · simp only [ofText, starts, bind, Except.bind, pure, Except.pure]
    rfl
  constructor
  · intro row
    rw [List.getElem?_toArray, getElem?_startsBehind]
    rfl
  · exact (LineIndex.textEnd_ofText text).symm
  · rwa [LineIndex.textEnd_ofText]

end LineTable

-----------------------------------------------------------------------------------------
-- Offsets and positions of a text
-----------------------------------------------------------------------------------------

namespace LineIndex

/-- Offsets and positions of a text correspond one to one and in order.  An offset has the position
that the line feeds before it give it, and that leads back to it.  A position has an offset exactly if
the text has its row, and that leads back to it, but for a column beyond the end of the row.  Later
offsets have later positions, up to the end of the text, whose position all offsets beyond have; and
positions that are not before others have no smaller offsets.  With a table of lines, no step of this
breaks off, whatever the offset or the position.
-/
theorem offsets_matchPositions (text : String)
    : let lines := ofText text
      let length := byteLength text.toList
      lines.lineCount = (bytes text).count lineFeed + 1
      ∧ (∀ offset ≤ length,
          let point := lines.positionAt offset
          point.row = ((bytes text).take offset).count lineFeed
          ∧ (∃ start stop,
              IsRow (bytes text) point.row start stop
              ∧ start + point.column = offset
              ∧ offset ≤ stop)
          ∧ lines.offsetAt? point = some offset)
      ∧ (∀ point, lines.offsetAt? point = none ↔ lines.lineCount ≤ point.row)
      ∧ (∀ point offset, lines.offsetAt? point = some offset
          → ∃ start stop,
              IsRow (bytes text) point.row start stop
              ∧ lines.lineEnd? point.row = some stop
              ∧ lines.positionAt offset = ⟨point.row, min point.column (stop - start)⟩)
      ∧ (∀ left right, left < right → right ≤ length
          → (lines.positionAt left).isBefore (lines.positionAt right) = true)
      ∧ (∀ offset, length ≤ offset → lines.positionAt offset = lines.positionAt length)
      ∧ (∀ left right first last, right.isBefore left = false
          → lines.offsetAt? left = some first → lines.offsetAt? right = some last
          → first ≤ last)
      ∧ (length + 1 < offsetBound
          → ∃ table,
              LineTable.ofText text = .ok table
              ∧ table.lineCount = lines.lineCount
              ∧ (∀ offset, table.positionAt offset = .ok (lines.positionAt offset))
              ∧ (∀ row, table.lineEnd row = .ok (lines.lineEnd? row))
              ∧ ∀ point, table.offsetAt point = .ok (lines.offsetAt? point)) := by
  intro lines length
  have textEnd : lines.textEnd = length := textEnd_ofText text
  refine ⟨?_, ?_, fun _ => offsetAt?_eq_none_iff, ?_, ?_, ?_, ?_, ?_⟩
  · rw [bytes_eq_flatMap, count_lineFeed_encode]
    exact lineCount_ofChars text.toList
  · intro offset within point
    obtain ⟨start, stop, span, column, before⟩ := exists_span? (textEnd.symm ▸ within)
    have isRow := isRow_of_span? span
    have after : start ≤ offset := by omega
    exact ⟨(isRow.count_take after before).symm, ⟨start, stop, isRow, column, before⟩,
      offsetAt?_positionAt (textEnd.symm ▸ within)⟩
  · intro point offset found
    obtain ⟨start, stop, span, _, _, position⟩ := positionAt_of_offsetAt? found
    refine ⟨start, stop, isRow_of_span? span, ?_, position⟩
    rw [lineEnd?, span, Option.map_some]
  · intro left right order within
    exact positionAt_isBefore order (textEnd.symm ▸ within)
  · intro offset beyond
    rw [← textEnd] at beyond ⊢
    exact positionAt_beyond beyond
  · intro left right first last order foundFirst foundLast
    exact offsetAt?_le_offsetAt? order foundFirst foundLast
  · intro bounded
    obtain ⟨table, made, indexes⟩ := LineTable.exists_ofText bounded
    exact ⟨table, made, indexes.lineCount, indexes.positionAt, indexes.lineEnd, indexes.offsetAt⟩

/-- A text with an empty line and a character of several bytes: neither the greatest offset nor the
greatest column leads anywhere else than to the end of the text or of the line.
-/
theorem offsets_matchPositions_emptyLine
    : byteLength "aé\n\nb".toList + 1 < offsetBound
      ∧ ∃ table,
          LineTable.ofText "aé\n\nb" = .ok table
          ∧ table.positionAt 18446744073709551615 = .ok ⟨2, 1⟩
          ∧ table.positionAt 4 = .ok ⟨1, 0⟩
          ∧ table.offsetAt ⟨0, 18446744073709551615⟩ = .ok (some 3)
          ∧ table.offsetAt ⟨3, 0⟩ = .ok none := by
  have bounded : byteLength "aé\n\nb".toList + 1 < offsetBound := by decide
  obtain ⟨_, _, _, _, _, _, _, steps⟩ := offsets_matchPositions "aé\n\nb"
  obtain ⟨table, made, _, position, _, offset⟩ := steps bounded
  refine ⟨bounded, table, made, (position _).trans (congrArg Except.ok ?_),
    (position _).trans (congrArg Except.ok ?_), (offset _).trans (congrArg Except.ok ?_),
    (offset _).trans (congrArg Except.ok ?_)⟩
  · decide
  · decide
  · decide
  · decide

end LineIndex

end SyntaxExplorer
